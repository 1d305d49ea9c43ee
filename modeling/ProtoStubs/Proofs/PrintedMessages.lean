import ProtoStubs.Proofs.Declared
import ProtoStubs.Proofs.Outline
import ProtoStubs.Proofs.TopLines

/-!
# The lines of one message

A message is printed at the level that it stands at, and the messages nested in it one level further in.
The lines are read back as blocks: a class, and a namespace with the plain-object form, the nested messages
and the case enumerations of the oneofs.
-/

namespace ProtoStubs

namespace Layout

def isAt (depth : Nat) : Line → Bool
  | .text d _ => d == depth
  | _ => false

/-- The lines after the first line with this content at a depth, up to the next line of the same depth. -/
def blockAt (depth : Nat) (head : String) (ls : List Line) : List Line :=
  ((ls.dropWhile (· != .text depth head)).drop 1).takeWhile fun l => !isAt depth l

def contentAt? (depth : Nat) : Line → Option String
  | .text d content => if d = depth then some content else none
  | _ => none

def contentsAt (depth : Nat) (ls : List Line) : List String := ls.filterMap (contentAt? depth)

def sectionsAt (depth : Nat) (ls : List Line) : List Section :=
  sections ((written ls).map fun p => (p.1 - depth, p.2))

section Levels

variable (n : Nat) (ls : List Line)

theorem contentsAt_append (depth : Nat) (xs ys : List Line) :
    contentsAt depth (xs ++ ys) = contentsAt depth xs ++ contentsAt depth ys :=
  List.filterMap_append

theorem contentsAt_flatMap {α : Type} (depth : Nat) (xs : List α) (lines : α → List Line) :
    contentsAt depth (xs.flatMap lines) = xs.flatMap fun x => contentsAt depth (lines x) :=
  List.filterMap_flatMap

theorem contentsAt_indentBy : contentsAt n (indentBy n ls) = contentsAt 0 ls := by
  rw [contentsAt, indentBy, List.filterMap_map]
  apply List.filterMap_congr
  intro l _
  cases l <;> simp [Line.indentBy, contentAt?]

theorem contentsAt_map_line {α : Type} (content : α → String) (xs : List α) :
    contentsAt 0 (xs.map fun x => line (content x)) = xs.map content := by
  simp [contentsAt, contentAt?, line, List.filterMap_map, Function.comp_def]

theorem written_indentBy : written (indentBy n ls) = (written ls).map fun p => (n + p.1, p.2) := by
  rw [written, written, indentBy, List.filterMap_map, List.map_filterMap]
  apply List.filterMap_congr
  intro l _
  cases l <;> rfl

theorem sectionsAt_indentBy : sectionsAt n (indentBy n ls) = outline ls := by
  rw [sectionsAt, outline, written_indentBy, List.map_map]
  congr 1
  simp [Function.comp_def]

theorem not_isAt_of_mem_indentBy {l : Line} (h : l ∈ indentBy (n + 1) ls) : isAt n l = false := by
  obtain ⟨l, -, rfl⟩ := List.mem_map.mp h
  cases l with
  | text depth content =>
    rw [Line.indentBy, isAt, beq_eq_false_iff_ne]
    omega
  | blank => rfl
  | verbatim content => rfl

theorem blockAt_braced {head : String} {before body after : List Line}
    (hbefore : .text n (head ++ openBrace) ∉ before) :
    blockAt n (head ++ openBrace) (before ++ indentBy n (braced head body "") ++ after) =
      indentBy (n + 1) body := by
  have hskip : ∀ l ∈ before, (l != .text n (head ++ openBrace)) = true := by
    intro l hl
    rw [bne_iff_ne]
    rintro rfl
    exact hbefore hl
  have hbody : ∀ l ∈ indentBy (n + 1) body, (!isAt n l) = true := by
    intro l hl
    rw [not_isAt_of_mem_indentBy n body hl, Bool.not_false]
  have hhead : (Line.text n (head ++ openBrace) != .text n (head ++ openBrace)) = false :=
    bne_self_eq_false _
  have hclose : isAt n (.text n closeBrace) = true := beq_self_eq_true n
  rw [blockAt, indentBy_braced, List.append_assoc, List.dropWhile_append_of_pos hskip, List.cons_append,
    List.cons_append, List.dropWhile_cons, hhead, if_neg Bool.false_ne_true, List.drop_one, List.tail_cons,
    List.append_assoc, List.takeWhile_append_of_pos hbody, List.singleton_append, List.takeWhile_cons,
    hclose, Bool.not_true, if_neg Bool.false_ne_true, List.append_nil]

end Levels

open Declaration (lineChars OneLine)

theorem splitChars_render {ls : List Line} (h : ∀ l ∈ ls, OneLine l) :
    Text.splitChars '\n' (render ls).toList = ls.map lineChars ++ [[]] := by
  induction ls with
  | nil => rfl
  | cons l ls ih =>
    rw [List.forall_mem_cons] at h
    rw [render_cons, String.toList_append, h.1.render, List.append_assoc, List.singleton_append,
      Text.splitChars_append h.1.not_mem, ih h.2]
    rfl

end Layout

namespace Declaration

open Layout

theorem addText_eq (stem optional : String) :
    "add" ++ stem ++ "(value" ++ optional ++ ": " =
      "add" ++ stem ++ ("(value" ++ (optional ++ ": ")) := by
  simp only [String.append_assoc]

theorem Property.contentsAt_lines (dialect : Schema.Dialect) (viewer : String) (p : Property) :
    contentsAt 0 (p.lines dialect viewer) = (p.accessors dialect).map (Phrase.render viewer) := by
  rw [Property.lines, contentsAt_append, contentsAt_map_line]
  exact List.append_nil _

section Print

variable (index : TypeIndex) (dialect : Schema.Dialect) (viewer : String) (level : Nat)

/-- The lines that are printed for a message in the file `viewer`. A pair type of a map is not printed: it
shows in the type of the map. -/
def printMessage (m : Schema.Message) : Except GenerationError (List Line) := do
  if m.isMapEntry then return []
  else return indentBy level ((← Message.link index viewer m).lines dialect viewer)

def printMessages (ms : List Schema.Message) : Except GenerationError (List Line) := do
  return (← ms.mapM (printMessage index dialect viewer level)).flatten

theorem printMessages_eq (ms : List Schema.Message) :
    printMessages index dialect viewer level ms = do
      return indentBy level ((← linkMessages index viewer ms).flatMap (Message.lines dialect viewer)) := by
  induction ms with
  | nil => rfl
  | cons m ms ih =>
    have hcons : printMessages index dialect viewer level (m :: ms) = do
        let ls ← printMessage index dialect viewer level m
        let rest ← printMessages index dialect viewer level ms
        return ls ++ rest := by
      simp [printMessages, List.mapM_cons]
    rw [hcons, ih, linkMessages]
    cases h : m.isMapEntry with
    | true => simp [printMessage, h]
    | false => simp [printMessage, h, indentBy_append]

theorem printMessage_eq {m : Schema.Message} (h : m.isMapEntry = false) :
    printMessage index dialect viewer level m = do
      let properties ← m.fields.mapM (Property.link index viewer)
      let nested ← printMessages index dialect viewer (level + 1) m.nested
      let extensions ← m.extensions.mapM (Extension.link index viewer)
      let oneofs := realOneofs m.oneofs m.fields
      return indentBy level
          ([.blank] ++ classLines dialect viewer m.name properties oneofs ++
            [.blank, line ("export namespace " ++ m.name ++ " " ++ openBrace)]) ++
        indentBy (level + 1) (objectLines dialect viewer properties) ++ nested ++
        indentBy (level + 1) (m.enums.flatMap enumLines ++ oneofs.flatMap Oneof.lines ++
          extensions.flatMap (Extension.lines viewer)) ++
        [.text level closeBrace] := by
  rw [printMessage, h, if_neg Bool.false_ne_true, Message.link_eq, printMessages_eq]
  simp only [bind_assoc, pure_bind]
  refine bind_congr fun properties => bind_congr fun nested => bind_congr fun extensions => ?_
  rw [Message.lines_eq]
  simp only [indentBy_append, indentBy_braced]
  simp [indentBy, Line.indentBy, line]

/-- The body of a declaration is what is printed for its messages at the outermost level, and then for its
extensions and its enumerations. -/
theorem bodyLines_eq_printMessages (f : Schema.File) :
    (do return (← File.link index f).bodyLines) = do
      let messages ← printMessages index f.dialect f.name 0 f.messages
      let extensions ← f.extensions.mapM (Extension.link index f.name)
      return messages ++ extensions.flatMap (Extension.lines f.name) ++ f.enums.flatMap enumLines ++
        [.blank] := by
  rw [File.link, printMessages_eq]
  simp only [bind_assoc, pure_bind, indentBy_zero, File.bodyLines, linesOfMessages_eq_flatMap]

end Print

def classHead (name : String) : String := "export class " ++ name ++ " extends jspb.Message "

def namespaceHead (name : String) : String := "export namespace " ++ name ++ " "

def classBody (level : Nat) (name : String) (ls : List Line) : List Line :=
  blockAt level (classHead name ++ openBrace) ls

def namespaceBody (level : Nat) (name : String) (ls : List Line) : List Line :=
  blockAt level (namespaceHead name ++ openBrace) ls

def objectBody (level : Nat) (name : String) (ls : List Line) : List Line :=
  blockAt (level + 1) ("export type AsObject = " ++ openBrace) (namespaceBody level name ls)

section Bodies

variable (dialect : Schema.Dialect) (viewer : String) (level : Nat)

theorem Message.classBody_lines (m : Message) :
    classBody level m.name (indentBy level (m.lines dialect viewer)) =
      indentBy (level + 1) (m.properties.flatMap (Property.lines dialect viewer) ++
        (m.oneofs.map fun o => line (o.caseAccessor m.name)) ++ (commonMembers m.name).map line) := by
  have hbefore : .text level (classHead m.name ++ openBrace) ∉ indentBy level [.blank] := by
    simp [indentBy, Line.indentBy]
  rw [Message.lines_eq, List.append_assoc, List.append_assoc, indentBy_append, indentBy_append,
    ← List.append_assoc]
  exact blockAt_braced level hbefore

theorem namespaceHead_ne_classHead (name : String) :
    namespaceHead name ++ openBrace ≠ classHead name ++ openBrace := by
  have hnamespace : (namespaceHead name ++ openBrace).toList =
      "export namespace ".toList ++ (name ++ " " ++ openBrace).toList := by
    unfold namespaceHead
    simp
  have hclass : (classHead name ++ openBrace).toList =
      "export class ".toList ++ (name ++ " extends jspb.Message " ++ openBrace).toList := by
    unfold classHead
    simp
  have hlead : "export class ".toList.isPrefixOf (namespaceHead name ++ openBrace).toList = false := by
    rw [hnamespace]
    rfl
  intro h
  rw [h, hclass, List.isPrefixOf_iff_prefix.mpr (List.prefix_append _ _)] at hlead
  cases hlead

theorem namespaceHead_ne_closeBrace (name : String) : closeBrace ≠ namespaceHead name ++ openBrace := by
  have hnamespace : (namespaceHead name ++ openBrace).toList =
      'e' :: ("xport namespace " ++ name ++ " " ++ openBrace).toList := by
    unfold namespaceHead
    simp
  intro h
  have h := congrArg String.toList h
  rw [hnamespace] at h
  cases h

theorem Message.namespaceBody_lines (m : Message) :
    namespaceBody level m.name (indentBy level (m.lines dialect viewer)) =
      indentBy (level + 1) (objectLines dialect viewer m.properties ++
        m.nested.flatMap (Message.lines dialect viewer) ++ m.enums.flatMap enumLines ++
        m.oneofs.flatMap Oneof.lines ++ m.extensions.flatMap (Extension.lines viewer)) := by
  have hbefore : .text level (namespaceHead m.name ++ openBrace) ∉ indentBy level
      ([.blank] ++ classLines dialect viewer m.name m.properties m.oneofs ++ [.blank]) := by
    have hbody (ls : List Line) :
        .text level (namespaceHead m.name ++ openBrace) ∉ indentBy (level + 1) ls := by
      intro h
      have hat := not_isAt_of_mem_indentBy level ls h
      simp [isAt] at hat
    have hclass := namespaceHead_ne_classHead m.name
    have hclose := (namespaceHead_ne_closeBrace m.name).symm
    rw [indentBy_append, indentBy_append, classLines, indentBy_braced]
    simp only [List.mem_append, List.mem_cons, List.not_mem_nil, hbody, Line.text.injEq, true_and, or_false,
      not_or]
    exact ⟨⟨by simp [indentBy, Line.indentBy], hclass, hclose⟩, by simp [indentBy, Line.indentBy]⟩
  rw [Message.lines_eq, indentBy_append, ← List.append_nil (_ ++ _)]
  exact blockAt_braced level hbefore

theorem Message.objectBody_lines (m : Message) :
    objectBody level m.name (indentBy level (m.lines dialect viewer)) =
      indentBy (level + 2) (m.properties.map fun p => line ((p.objectEntry dialect).render viewer)) := by
  rw [objectBody, Message.namespaceBody_lines]
  simp only [List.append_assoc]
  rw [indentBy_append, ← List.nil_append (indentBy _ (objectLines _ _ _))]
  exact blockAt_braced (level + 1) List.not_mem_nil

end Bodies

section Printed

variable {index : TypeIndex} {dialect : Schema.Dialect} {viewer : String} {level : Nat}
  {m : Schema.Message} {ls : List Line}

theorem exists_link_of_printMessage (hm : m.isMapEntry = false)
    (h : printMessage index dialect viewer level m = .ok ls) :
    ∃ m', Message.link index viewer m = .ok m' ∧ ls = indentBy level (m'.lines dialect viewer) := by
  rw [printMessage, hm, if_neg Bool.false_ne_true] at h
  obtain ⟨m', hlink, h⟩ := bind_eq_ok.mp h
  exact ⟨m', hlink, (pure_eq_ok.mp h).symm⟩

theorem Message.parts_of_link {m' : Message} (h : Message.link index viewer m = .ok m') :
    m'.name = m.name ∧
      List.Forall₂ (fun f p => Property.link index viewer f = .ok p) m.fields m'.properties ∧
      m'.oneofs = realOneofs m.oneofs m.fields := by
  rw [Message.link_eq] at h
  obtain ⟨properties, hproperties, h⟩ := bind_eq_ok.mp h
  obtain ⟨nested, -, h⟩ := bind_eq_ok.mp h
  obtain ⟨extensions, -, h⟩ := bind_eq_ok.mp h
  cases pure_eq_ok.mp h
  exact ⟨rfl, mapM_eq_ok.mp hproperties, rfl⟩

theorem Reads.oneLine {s t : Reader} {rows : List Row} (h : Reads viewer s rows t) :
    ∀ r ∈ rows, OneLine (r.line viewer) := by
  induction h with
  | nil => exact List.forall_mem_nil _
  | cons hline _ _ ih => exact List.forall_mem_cons.mpr ⟨hline, ih⟩

theorem splitChars_of_printMessage (hindex : ∀ e ∈ index.exports, Text.Flat (e.reference viewer))
    (hnames : ∀ n ∈ m.withNested, n.Named) (hm : m.isMapEntry = false)
    (h : printMessage index dialect viewer level m = .ok ls) :
    Text.splitChars '\n' (render ls).toList = ls.map lineChars ++ [[]] := by
  obtain ⟨m', hlink, rfl⟩ := exists_link_of_printMessage hm h
  -- A scope of this length puts the rows at the level; its names do not matter.
  have hscope : (Reader.mk (List.replicate level (some "")) [] []).scope = List.replicate level "" := by
    simp [Reader.scope]
  obtain ⟨_, -, hreads⟩ := Message.declares hindex hlink hm hnames _ hscope
  have hrows := m'.rows_lines viewer dialect (List.replicate level "")
  rw [List.length_replicate] at hrows
  apply splitChars_render
  rw [← hrows, List.forall_mem_map]
  exact hreads.oneLine

end Printed

end Declaration

end ProtoStubs
