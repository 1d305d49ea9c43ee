import ProtoStubs.Proofs.LineBreaks
import ProtoStubs.Proofs.PrintedMessages
import ProtoStubs.Proofs.Recording

/-!
# Nested text is shifted text

A declaration is printed at the level that it stands at. Text that was printed before is taken over as it
is. One level further in, every line that has something on it is moved by two blanks, and nothing else
changes: neither the error, nor the files that are put on record.
-/

namespace ProtoStubs

namespace Text

def shiftLine (width : Nat) (l : List Char) : List Char :=
  if l = [] then [] else List.replicate width ' ' ++ l

/-- The text with blanks before each line that is not empty. -/
def shift (width : Nat) (s : String) : String :=
  String.ofList (['\n'].intercalate ((splitChars '\n' s.toList).map (shiftLine width)))

end Text

namespace Layout

open Declaration (Solid OneLine lineChars)
open Text (shiftLine)

theorem shiftLine_lineChars {l : Line} (h : Solid l) (n : Nat) :
    shiftLine (2 * n) (lineChars l) = lineChars (l.indentBy n) := by
  cases l with
  | text depth content =>
    have hcontent : lineChars (.text depth content) ≠ [] := by
      simp [lineChars, h.1]
    rw [shiftLine, if_neg hcontent, Line.indentBy, lineChars, lineChars, ← List.append_assoc,
      List.replicate_append_replicate, Nat.mul_add]
  | blank => rfl
  | verbatim content => cases h

theorem intercalate_lineChars {ls : List Line} (h : ∀ l ∈ ls, OneLine l) :
    ['\n'].intercalate (ls.map lineChars ++ [[]]) = (render ls).toList := by
  induction ls with
  | nil => rfl
  | cons l ls ih =>
    rw [List.forall_mem_cons] at h
    have hrest : ls.map lineChars ++ [[]] ≠ [] := by simp
    rw [render_cons, String.toList_append, h.1.render, ← ih h.2, List.map_cons, List.cons_append,
      List.intercalate_cons_of_ne_nil hrest]

theorem render_indentBy {ls : List Line} (h : ∀ l ∈ ls, Solid l) (n : Nat) :
    render (indentBy n ls) = Text.shift (2 * n) (render ls) := by
  have hlines : ∀ l ∈ ls, OneLine l := fun l hl => (h l hl).oneLine
  have hshifted : ∀ l ∈ indentBy n ls, OneLine l := fun l hl =>
    (Declaration.solid_indentBy h n l hl).oneLine
  have hmap : (ls.map lineChars).map (shiftLine (2 * n)) = (indentBy n ls).map lineChars := by
    rw [indentBy, List.map_map, List.map_map]
    exact List.map_congr_left fun l hl => shiftLine_lineChars (h l hl) n
  rw [Text.shift, splitChars_render hlines, List.map_append, hmap]
  change _ = String.ofList (['\n'].intercalate ((indentBy n ls).map lineChars ++ [[]]))
  rw [intercalate_lineChars hshifted, String.ofList_toList]

end Layout

namespace Declaration

open Layout

section Ask

variable (index : TypeIndex) (viewer : String)

def mention (t : TypeExpr) : Recording Unit :=
  match t.origin? with
  | none => return
  | some file => if file = viewer then return else Recording.note file

def askField (f : Schema.Field) : Recording TypeExpr := do
  let type ← Recording.ofExcept (TypeExpr.ofField index viewer f)
  mention viewer type
  return type

/-- The type of a property. The pair type of a map is looked at without being named. -/
def askProperty (f : Schema.Field) : Recording Property := do
  if f.isMap then
    let entry ← Resolver.pairOf index viewer f.typeName
    let pair ← Recording.ofExcept (require (.notAMapEntry f.name f.typeName) entry)
    let key ← askField index viewer pair.key
    let value ← askField index viewer pair.value
    return ⟨f, .map key value⟩
  else return ⟨f, .plain (← askField index viewer f)⟩

def askExtension (f : Schema.Field) : Recording Extension :=
  return ⟨f, ← askField index viewer f⟩

end Ask

section Write

variable (index : TypeIndex) (dialect : Schema.Dialect) (viewer : String)

def writeEnum (level : Nat) (e : Schema.Enum) : String := render (indentBy level (enumLines e))

def writeOneof (level : Nat) (o : Oneof) : String := render (indentBy level o.lines)

def writeExtension (level : Nat) (f : Schema.Field) : Recording String :=
  return render (indentBy level ((← askExtension index viewer f).lines viewer))

mutual

/-- A message is written with its class at its level and its plain-object form one level further in. The text
of what is nested in it is written one level further in, and taken over as it is. -/
def writeMessage (level : Nat) : Schema.Message → Recording String
  | ⟨name, _, fields, nested, enums, oneofs, extensions, isMapEntry⟩ => do
    if isMapEntry then return ""
    else
      let properties ← fields.mapM (askProperty index viewer)
      let messages ← writeMessages (level + 1) nested
      let constants ← extensions.mapM (writeExtension index viewer (level + 1))
      let oneofs := realOneofs oneofs fields
      return render (indentBy level ([.blank] ++ classLines dialect viewer name properties oneofs ++
          [.blank, line ("export namespace " ++ name ++ " " ++ openBrace)])) ++
        render (indentBy (level + 1) (objectLines dialect viewer properties)) ++ messages ++
        String.join (enums.map (writeEnum (level + 1))) ++
        String.join (oneofs.map (writeOneof (level + 1))) ++ String.join constants ++
        render [.text level closeBrace]

def writeMessages (level : Nat) : List Schema.Message → Recording String
  | [] => return ""
  | m :: rest => do
    let text ← writeMessage level m
    let texts ← writeMessages level rest
    return text ++ texts

end

/-- A file is written with its body first, since the record of the body tells what to import. -/
def writeFile (f : Schema.File) : Recording String := do
  let messages ← writeMessages index f.dialect f.name 0 f.messages
  let constants ← f.extensions.mapM (writeExtension index f.name 0)
  let imports := f.dependencies ++ (← get).filter fun file => !f.dependencies.contains file
  return render (preamble f ++ imports.map fun target => line (importLine f.name target)) ++
    (messages ++ String.join constants ++ String.join (f.enums.map (writeEnum 0)) ++ render [.blank])

end Write

section Asks

variable {index : TypeIndex} {dialect : Schema.Dialect} {viewer : String}

theorem outcome_mention (t : TypeExpr) (seen : List String) :
    (mention viewer t).outcome seen = (.ok (), t.origin?.toList.foldl (noteFile viewer) seen) := by
  unfold mention
  cases t.origin? with
  | none => rfl
  | some file =>
    by_cases hown : file = viewer
    · simp [hown, noteFile]
    · simp [hown, noteFile, Recording.keep]

theorem outcome_askField (f : Schema.Field) (seen : List String) :
    (askField index viewer f).outcome seen =
      match TypeExpr.ofField index viewer f with
      | .error e => (.error e, seen)
      | .ok t => (.ok t, t.origin?.toList.foldl (noteFile viewer) seen) := by
  unfold askField
  rw [Recording.outcome_bind, Recording.outcome_ofExcept]
  cases TypeExpr.ofField index viewer f with
  | error e => rfl
  | ok t => exact Recording.outcome_bind_of_ok (outcome_mention t seen)

theorem asks_field (f : Schema.Field) :
    Recording.Asks (noteFile viewer) (askField index viewer f) (TypeExpr.ofField index viewer f)
      (·.origin?.toList) := by
  intro seen
  rw [outcome_askField]
  cases TypeExpr.ofField index viewer f with
  | error e => exact ⟨rfl, fun t ht => nomatch ht⟩
  | ok t => exact ⟨rfl, fun t' ht => by cases ht; rfl⟩

theorem asks_property (f : Schema.Field) :
    Recording.Asks (noteFile viewer) (askProperty index viewer f) (Property.link index viewer f)
      (·.type.origins) := by
  unfold askProperty Property.link
  cases f.isMap with
  | false => exact Recording.Asks.map (asks_field f) (fun t => (⟨f, .plain t⟩ : Property)) fun _ => rfl
  | true =>
    have hpair : Recording.Asks (noteFile viewer) (Resolver.pairOf index viewer f.typeName)
        (do return (← index.resolve .message f.typeName viewer).mapEntry) fun _ => [] :=
      Recording.Asks.map (Recording.Asks.ofExcept _) Export.mapEntry fun _ => rfl
    have hlink : (do return (⟨f, ← PropertyType.ofMap index viewer f⟩ : Property)) = do
        let entry ← (do return (← index.resolve .message f.typeName viewer).mapEntry)
        let pair ← require (.notAMapEntry f.name f.typeName) entry
        let key ← TypeExpr.ofField index viewer pair.key
        let value ← TypeExpr.ofField index viewer pair.value
        return (⟨f, .map key value⟩ : Property) := by
      simp only [PropertyType.ofMap, bind_assoc, pure_bind]
    rw [if_pos rfl, if_pos rfl, hlink]
    refine Recording.Asks.bind (fun _ p => p.type.origins) hpair (fun entry => ?_) fun _ _ _ => rfl
    refine Recording.Asks.bind (fun _ p => p.type.origins) (Recording.Asks.ofExcept _)
      (fun pair => ?_) fun _ _ _ => rfl
    refine Recording.Asks.bind (fun key p => p.type.origins.drop key.origin?.toList.length)
      (asks_field pair.key) (fun key => ?_) fun key p hp => ?_
    · refine Recording.Asks.map (asks_field pair.value)
        (fun value => (⟨f, .map key value⟩ : Property)) fun value => ?_
      exact List.drop_left
    · obtain ⟨value, -, hp⟩ := bind_eq_ok.mp hp
      rw [← pure_eq_ok.mp hp]
      exact congrArg (_ ++ ·) List.drop_left.symm

theorem asks_extension (f : Schema.Field) :
    Recording.Asks (noteFile viewer) (askExtension index viewer f) (Extension.link index viewer f)
      (·.type.origin?.toList) :=
  Recording.Asks.map (asks_field f) (fun t => (⟨f, t⟩ : Extension)) fun _ => rfl

theorem render_flatMap {α : Type} (level : Nat) (xs : List α) (lines : α → List Line) :
    render (indentBy level (xs.flatMap lines)) =
      String.join (xs.map fun x => render (indentBy level (lines x))) := by
  induction xs with
  | nil => rfl
  | cons x xs ih => rw [List.flatMap_cons, indentBy_append, render_append, ih, List.map_cons, String.join_cons]

theorem mapM_writeExtension (level : Nat) (fs : List Schema.Field) :
    fs.mapM (writeExtension index viewer level) = do
      return (← fs.mapM (askExtension index viewer)).map
        fun x => render (indentBy level (x.lines viewer)) :=
  Recording.mapM_return _ _ fs

theorem render_message (level : Nat) (m : Message) :
    render (indentBy level ([.blank] ++ classLines dialect viewer m.name m.properties m.oneofs ++
        [.blank, line ("export namespace " ++ m.name ++ " " ++ openBrace)])) ++
      render (indentBy (level + 1) (objectLines dialect viewer m.properties)) ++
      render (indentBy (level + 1) (m.nested.flatMap (Message.lines dialect viewer))) ++
      String.join (m.enums.map (writeEnum (level + 1))) ++
      String.join (m.oneofs.map (writeOneof (level + 1))) ++
      String.join (m.extensions.map fun x => render (indentBy (level + 1) (x.lines viewer))) ++
      render [.text level closeBrace] =
    render (indentBy level (m.lines dialect viewer)) := by
  have henums : String.join (m.enums.map (writeEnum (level + 1))) =
      render (indentBy (level + 1) (m.enums.flatMap enumLines)) := (render_flatMap _ _ _).symm
  have honeofs : String.join (m.oneofs.map (writeOneof (level + 1))) =
      render (indentBy (level + 1) (m.oneofs.flatMap Oneof.lines)) := (render_flatMap _ _ _).symm
  have hhead : indentBy level ([.blank, line ("export namespace " ++ m.name ++ " " ++ openBrace)]) =
      indentBy level [.blank] ++ [.text level ("export namespace " ++ m.name ++ " " ++ openBrace)] := rfl
  rw [henums, honeofs, ← render_flatMap, Message.lines_eq]
  simp only [indentBy_append, indentBy_braced, hhead]
  simp only [← render_append, List.append_assoc, List.nil_append, List.cons_append]

/-- How a message is written: its types are asked for in the order of its links, and the lines are those of
the linked message. -/
structure Written (index : TypeIndex) (dialect : Schema.Dialect) (viewer : String) (m : Schema.Message)
    (x : Recording Message) : Prop where
  asks : Recording.Asks (noteFile viewer) x (Message.link index viewer m) Message.origins
  text : ∀ level, writeMessage index dialect viewer level m =
    if m.isMapEntry then return ""
    else do return render (indentBy level ((← x).lines dialect viewer))

theorem exists_written_messages {ms : List Schema.Message}
    (h : ∀ m ∈ ms, ∃ x, Written index dialect viewer m x) :
    ∃ x, Recording.Asks (noteFile viewer) x (linkMessages index viewer ms) (·.flatMap Message.origins) ∧
      ∀ level, writeMessages index dialect viewer level ms = do
        return render (indentBy level ((← x).flatMap (Message.lines dialect viewer))) := by
  induction ms with
  | nil => exact ⟨pure [], Recording.Asks.pure [] rfl, fun level => rfl⟩
  | cons m ms ih =>
    rw [List.forall_mem_cons] at h
    obtain ⟨x, hx⟩ := h.1
    obtain ⟨xs, hasks, htext⟩ := ih h.2
    cases hm : m.isMapEntry with
    | true =>
      refine ⟨xs, ?_, fun level => ?_⟩
      · rw [linkMessages, if_pos hm]
        exact hasks
      · rw [writeMessages, hx.text, if_pos hm, htext]
        simp
    | false =>
      refine ⟨do return (← x) :: (← xs), ?_, fun level => ?_⟩
      · rw [linkMessages, if_neg (Bool.eq_false_iff.mp hm)]
        exact Recording.Asks.cons hx.asks hasks
      · rw [writeMessages, hx.text, if_neg (Bool.eq_false_iff.mp hm), htext]
        simp [indentBy_append, render_append]

theorem exists_written (m : Schema.Message) : ∃ x, Written index dialect viewer m x := by
  induction m using Schema.Message.induct with
  | step m ih =>
    obtain ⟨messages, hmessages, htext⟩ := exists_written_messages ih
    refine ⟨do
      let properties ← m.fields.mapM (askProperty index viewer)
      let nested ← messages
      let extensions ← m.extensions.mapM (askExtension index viewer)
      return ⟨m.name, properties, nested, m.enums, realOneofs m.oneofs m.fields, extensions⟩, ?asks, ?text⟩
    case asks =>
      have hproperties := Recording.Asks.mapM fun f (_ : f ∈ m.fields) =>
        @asks_property index viewer f
      have hextensions := Recording.Asks.mapM fun f (_ : f ∈ m.extensions) =>
        @asks_extension index viewer f
      rw [Message.link_eq]
      refine Recording.Asks.bind (fun _ m' => m'.nested.flatMap Message.origins ++
        m'.extensions.flatMap (·.type.origin?.toList)) hproperties (fun properties => ?_)
        fun properties m' h => ?_
      · refine Recording.Asks.bind (fun _ m' => m'.extensions.flatMap (·.type.origin?.toList)) hmessages
          (fun nested => Recording.Asks.map hextensions _ fun _ => rfl) fun nested m' h => ?_
        obtain ⟨extensions, -, h⟩ := bind_eq_ok.mp h
        rw [← pure_eq_ok.mp h]
      · obtain ⟨nested, -, h⟩ := bind_eq_ok.mp h
        obtain ⟨extensions, -, h⟩ := bind_eq_ok.mp h
        rw [← pure_eq_ok.mp h, Message.origins_eq_flatMap, List.append_assoc]
    case text =>
      intro level
      obtain ⟨name, fullName, fields, nested, enums, oneofs, extensions, isMapEntry⟩ := m
      rw [writeMessage]
      cases isMapEntry with
      | true => rfl
      | false =>
        simp only [Bool.false_eq_true, if_false, htext, mapM_writeExtension, bind_assoc, pure_bind]
        refine bind_congr fun properties => bind_congr fun messages => bind_congr fun constants => ?_
        exact congrArg pure (render_message level ⟨name, properties, messages, enums, _, constants⟩)

theorem Written.outcome {m : Schema.Message} {x : Recording Message}
    (h : Written index dialect viewer m x) (hm : m.isMapEntry = false) (level : Nat) (seen : List String) :
    (writeMessage index dialect viewer level m).outcome seen =
      ((Message.link index viewer m).map fun m' => render (indentBy level (m'.lines dialect viewer)),
        (x.outcome seen).2) := by
  rw [h.text, hm, if_neg Bool.false_ne_true, ← (h.asks seen).1]
  exact Recording.outcome_map seen (fun m' : Message => render (indentBy level (m'.lines dialect viewer))) x

theorem result_writeMessage (level : Nat) (m : Schema.Message) (seen : List String) :
    ((writeMessage index dialect viewer level m).outcome seen).1 =
      (printMessage index dialect viewer level m).map render := by
  obtain ⟨x, hx⟩ := @exists_written index dialect viewer m
  cases hm : m.isMapEntry with
  | true =>
    rw [hx.text, printMessage, hm, if_pos rfl, if_pos rfl]
    rfl
  | false =>
    rw [hx.outcome hm, printMessage, hm, if_neg Bool.false_ne_true]
    cases Message.link index viewer m <;> rfl

theorem writeMessage_further (hindex : ∀ e ∈ index.exports, e.Unbroken) {m : Schema.Message}
    (hnames : ∀ n ∈ m.withNested, n.Unbroken) (level k : Nat) (seen : List String) :
    (writeMessage index dialect viewer (k + level) m).outcome seen =
      (((writeMessage index dialect viewer level m).outcome seen).1.map (Text.shift (2 * k)),
        ((writeMessage index dialect viewer level m).outcome seen).2) := by
  obtain ⟨x, hx⟩ := @exists_written index dialect viewer m
  cases hm : m.isMapEntry with
  | true =>
    rw [hx.text, hx.text, hm, if_pos rfl, if_pos rfl]
    rfl
  | false =>
    rw [hx.outcome hm, hx.outcome hm]
    cases hlink : Message.link index viewer m with
    | error e => rfl
    | ok m' =>
      have hsolid := solid_indentBy (Message.solid_lines hindex dialect hlink hnames) level
      have htext := render_indentBy hsolid k
      rw [indentBy_indentBy] at htext
      simp only [Except.map, htext]

theorem writeFile_eq {f : Schema.File} {x : Recording (List Message)}
    (htext : ∀ level, writeMessages index f.dialect f.name level f.messages = do
      return render (indentBy level ((← x).flatMap (Message.lines f.dialect f.name)))) :
    writeFile index f = do
      let messages ← x
      let extensions ← f.extensions.mapM (askExtension index f.name)
      let imports := f.dependencies ++ (← get).filter fun file => !f.dependencies.contains file
      return render (preamble f ++ (imports.map fun target => line (importLine f.name target)) ++
        File.bodyLines ⟨f.name, f.package, f.dialect, f.dependencies, messages, extensions, f.enums⟩) := by
  have henums : String.join (f.enums.map (writeEnum 0)) = render (f.enums.flatMap enumLines) := by
    rw [← indentBy_zero (f.enums.flatMap _), render_flatMap]
    rfl
  have hextensions (xs : List Extension) :
      String.join (xs.map fun x => render (x.lines f.name)) =
        render (xs.flatMap (Extension.lines f.name)) := by
    rw [← indentBy_zero (xs.flatMap _), render_flatMap]
    simp only [indentBy_zero]
  simp only [writeFile, htext, mapM_writeExtension, bind_assoc, pure_bind, henums, hextensions, indentBy_zero]
  refine bind_congr fun messages => bind_congr fun extensions => bind_congr fun seen => ?_
  simp only [File.bodyLines, linesOfMessages_eq_flatMap, render_append]

/-- The text of a file is what is written for it. The record of its body is what the file mentions. -/
theorem result_writeFile (f : Schema.File) : ((writeFile index f).outcome []).1 = text index f := by
  obtain ⟨x, hmessages, htext⟩ := @exists_written_messages index f.dialect f.name f.messages
    fun m _ => exists_written m
  have hextensions := Recording.Asks.mapM fun e (_ : e ∈ f.extensions) =>
    @asks_extension index f.name e
  rw [writeFile_eq htext, text, File.link]
  cases hlinked : linkMessages index f.name f.messages with
  | error e =>
    rw [hlinked] at hmessages
    rw [Recording.outcome_bind_of_error (hmessages.outcome_of_error [])]
    rfl
  | ok messages =>
    rw [hlinked] at hmessages
    rw [Recording.outcome_bind_of_ok (hmessages.outcome_of_ok [])]
    cases hlink : f.extensions.mapM (Extension.link index f.name) with
    | error e =>
      rw [hlink] at hextensions
      rw [Recording.outcome_bind_of_error (hextensions.outcome_of_error _)]
      rfl
    | ok extensions =>
      rw [hlink] at hextensions
      rw [Recording.outcome_bind_of_ok (hextensions.outcome_of_ok _), ← List.foldl_append]
      have hrecord : (messages.flatMap Message.origins ++
          extensions.flatMap (·.type.origin?.toList)).foldl (noteFile f.name) [] =
            foreignFiles f.name (File.origins
              ⟨f.name, f.package, f.dialect, f.dependencies, messages, extensions, f.enums⟩) := by
        rw [File.origins, originsOfMessages_eq_flatMap]
        rfl
      rw [hrecord]
      rfl

end Asks

/-- A message stands so many levels below another one, in messages that are printed. -/
inductive NestedAt : Nat → Schema.Message → Schema.Message → Prop
  | self (m : Schema.Message) : NestedAt 0 m m
  | nested {m n x : Schema.Message} {k : Nat} (printed : m.isMapEntry = false) (mem : n ∈ m.nested)
      (below : NestedAt k n x) : NestedAt (k + 1) m x

section Nested

variable {index : TypeIndex} {dialect : Schema.Dialect} {viewer : String}

/-- The lines of a nested message are among those of the message around it, further in by the levels
between them. -/
theorem NestedAt.infix_printMessage {k level : Nat} {m x : Schema.Message} {ls : List Line}
    (h : NestedAt k m x) (hls : printMessage index dialect viewer level m = .ok ls) :
    ∃ inner, printMessage index dialect viewer (k + level) x = .ok inner ∧ inner <:+: ls := by
  induction h generalizing level ls with
  | self m =>
    rw [Nat.zero_add]
    exact ⟨ls, hls, List.infix_refl ls⟩
  | @nested m n x k hm hn _ ih =>
    rw [printMessage_eq index dialect viewer level hm] at hls
    obtain ⟨properties, -, hls⟩ := bind_eq_ok.mp hls
    obtain ⟨nested, hnested, hls⟩ := bind_eq_ok.mp hls
    obtain ⟨extensions, -, hls⟩ := bind_eq_ok.mp hls
    obtain ⟨groups, hgroups, hnested⟩ := bind_eq_ok.mp hnested
    obtain ⟨group, hgroup, hprint⟩ := exists_related (mapM_eq_ok.mp hgroups) hn
    obtain ⟨inner, hinner, hinfix⟩ := ih hprint
    cases pure_eq_ok.mp hls
    cases pure_eq_ok.mp hnested
    have hlevel : k + (level + 1) = k + 1 + level := by omega
    refine ⟨inner, hlevel ▸ hinner, hinfix.trans ((List.infix_of_mem_flatten hgroup).trans ?_)⟩
    rw [List.append_assoc]
    exact List.infix_append _ _ _

theorem NestedAt.mem_withNested {k : Nat} {m x : Schema.Message} (h : NestedAt k m x) :
    ∀ n ∈ x.withNested, n ∈ m.withNested := by
  induction h with
  | self m => exact fun n hn => hn
  | nested _ hn _ ih => exact fun y hy => Schema.Message.withNested_subset hn (ih y hy)

theorem NestedAt.text {k level : Nat} {m x : Schema.Message} {outer : String} {seen : List String}
    (hindex : ∀ e ∈ index.exports, e.Unbroken) (hnames : ∀ n ∈ m.withNested, n.Unbroken)
    (h : NestedAt k m x)
    (houter : ((writeMessage index dialect viewer level m).outcome seen).1 = .ok outer) :
    ∃ inner before after,
      (∀ other, ((writeMessage index dialect viewer 0 x).outcome other).1 = .ok inner) ∧
        outer = before ++ Text.shift (2 * (k + level)) inner ++ after := by
  rw [result_writeMessage] at houter
  cases hls : printMessage index dialect viewer level m with
  | error e =>
    rw [hls] at houter
    cases houter
  | ok ls =>
    rw [hls] at houter
    obtain ⟨lines, hlines, before, after, rfl⟩ := h.infix_printMessage hls
    have hdeep := @result_writeMessage index dialect viewer (k + level) x []
    have hshift := @writeMessage_further index dialect viewer hindex x
      (fun n hn => hnames n (h.mem_withNested n hn)) 0 (k + level) []
    rw [Nat.add_zero] at hshift
    rw [hshift, hlines] at hdeep
    cases hinner : ((writeMessage index dialect viewer 0 x).outcome []).1 with
    | error e =>
      rw [hinner] at hdeep
      cases hdeep
    | ok inner =>
      rw [hinner] at hdeep
      refine ⟨inner, render before, render after, fun other => ?_, ?_⟩
      · rw [result_writeMessage, ← hinner, result_writeMessage]
      · rw [Except.ok.inj hdeep, ← render_append, ← render_append]
        exact (Except.ok.inj houter).symm

end Nested

/-- One level further in, a declaration has the same text with two blanks more before each line that is not
empty. -/
theorem written_one_level_further (index : TypeIndex) (dialect : Schema.Dialect) (viewer : String)
    (hindex : ∀ e ∈ index.exports, e.Unbroken) :
    (∀ m : Schema.Message, (∀ n ∈ m.withNested, n.Unbroken) → ∀ level seen,
      let written := (writeMessage index dialect viewer level m).outcome seen
      (writeMessage index dialect viewer (level + 1) m).outcome seen =
          (written.1.map (Text.shift 2), written.2) ∧
        written.1 = (printMessage index dialect viewer level m).map render ∧
        ∀ k x outer, NestedAt k m x → written.1 = .ok outer → ∃ inner before after,
          (∀ other, ((writeMessage index dialect viewer 0 x).outcome other).1 = .ok inner) ∧
            outer = before ++ Text.shift (2 * (k + level)) inner ++ after) ∧
    (∀ e : Schema.Enum, e.Unbroken → ∀ level,
      writeEnum (level + 1) e = Text.shift 2 (writeEnum level e)) ∧
    (∀ o : Oneof, Text.Unbroken o.name → (∀ f ∈ o.members, Text.Unbroken f.name) → ∀ level,
      writeOneof (level + 1) o = Text.shift 2 (writeOneof level o)) ∧
    (∀ f : Schema.Field, Text.Unbroken f.name → ∀ level seen,
      let written := (writeExtension index viewer level f).outcome seen
      (writeExtension index viewer (level + 1) f).outcome seen =
        (written.1.map (Text.shift 2), written.2)) ∧
    ∀ f : Schema.File, ((writeFile index f).outcome []).1 = text index f := by
  have hshift {ls : List Line} (h : ∀ l ∈ ls, Solid l) (level : Nat) :
      render (indentBy (level + 1) ls) = Text.shift 2 (render (indentBy level ls)) := by
    rw [← render_indentBy (solid_indentBy h level) 1, indentBy_indentBy, Nat.add_comm]
  refine ⟨?_, ?_, ?_, ?_, result_writeFile⟩
  · intro m hnames level seen
    refine ⟨?_, result_writeMessage level m seen, ?_⟩
    · rw [Nat.add_comm level 1]
      exact writeMessage_further hindex hnames level 1 seen
    · intro k x outer hx houter
      exact hx.text hindex hnames houter
  · intro e he level
    exact hshift (solid_enumLines he) level
  · intro o hname hmembers level
    exact hshift (Oneof.solid_lines hname hmembers) level
  · intro f hname level seen
    have hwritten (n : Nat) : (writeExtension index viewer n f).outcome seen =
        (((askExtension index viewer f).outcome seen).1.map fun x => render (indentBy n (x.lines viewer)),
          ((askExtension index viewer f).outcome seen).2) :=
      Recording.outcome_map seen (fun x : Extension => render (indentBy n (x.lines viewer))) _
    intro written
    have hfirst : written = _ := hwritten level
    rw [hwritten, hfirst, (asks_extension f seen).1]
    cases hlink : Extension.link index viewer f with
    | error e => rfl
    | ok x => simp only [Except.map, hshift (Extension.solid_of_link hindex hlink hname) level]

/-- A message with a nested one that refers to another file. -/
def outerMessage : Schema.Message where
  name := "Outer"
  fullName := "p.Outer"
  fields := [{ name := "part", number := 1, type := .message, typeName := "p.Outer.Part" }]
  nested := [{
    name := "Part"
    fullName := "p.Outer.Part"
    fields := [{ name := "other", number := 1, type := .message, typeName := "q.B" }] }]
  enums := [{ name := "Größe", fullName := "p.Outer.Größe", values := [{ name := "groß", number := 0 }] }]

def outerIndex : TypeIndex where
  exports := [
    { kind := .message, fullName := "p.Outer", package := "p", fileName := "a.proto" },
    { kind := .message, fullName := "p.Outer.Part", package := "p", fileName := "a.proto" },
    { kind := .message, fullName := "q.B", package := "q", fileName := "b.proto" }]

theorem outerMessage_written : ∃ outer inner before after,
    (writeMessage outerIndex .proto3 "a.proto" 0 outerMessage).outcome [] = (.ok outer, ["b.proto"]) ∧
      (writeMessage outerIndex .proto3 "a.proto" 1 outerMessage).outcome [] =
        (.ok (Text.shift 2 outer), ["b.proto"]) ∧
      outer = before ++ Text.shift 2 inner ++ after := by
  have hnested (m : Schema.Message) (hm : m ∈ outerMessage.nested) : NestedAt 1 outerMessage m :=
    .nested rfl hm (.self m)
  obtain ⟨hmessages, -⟩ := written_one_level_further outerIndex .proto3 "a.proto" (by decide)
  obtain ⟨hshift, -, hinner⟩ := hmessages outerMessage (by decide) 0 []
  obtain ⟨outer, houter⟩ :
    Succeeds ((writeMessage outerIndex .proto3 "a.proto" 0 outerMessage).outcome []).1 := by decide
  have hrecord : ((writeMessage outerIndex .proto3 "a.proto" 0 outerMessage).outcome []).2 = ["b.proto"] := by
    decide
  obtain ⟨inner, before, after, -, htext⟩ := hinner 1 _ outer (hnested _ List.mem_cons_self) houter
  refine ⟨outer, inner, before, after, Prod.ext houter hrecord, ?_, htext⟩
  rw [hshift, houter, hrecord]
  rfl

end Declaration

end ProtoStubs
