import ProtoStubs.Proofs.PrintedMessages

/-!
# What one field shows

In the class of a message, each field has a block of accessors that share its stem, and in the plain-object
form it has one key. Which accessors a block holds depends on the repetition of the field, on whether it is
of bytes and on whether the runtime knows it as set or unset.
-/

namespace ProtoStubs

open Layout
open Text (startsWith endsWith)

namespace Identifier

/-- The reserved words of the target language, those of its former and of its strict versions included. -/
def languageWords : List String := [
  "abstract", "await", "boolean", "break", "byte", "case", "catch", "char", "class", "const", "continue",
  "debugger", "default", "delete", "do", "double", "else", "enum", "export", "extends", "false", "final",
  "finally", "float", "for", "function", "goto", "if", "implements", "import", "in", "instanceof", "int",
  "interface", "let", "long", "native", "new", "null", "package", "private", "protected", "public", "return",
  "short", "static", "super", "switch", "synchronized", "this", "throw", "throws", "transient", "true", "try",
  "typeof", "var", "void", "volatile", "while", "with", "yield"]

/-- The reserved words of the language that are not escaped. -/
def unescapedWords : List String := ["await", "let", "true", "yield"]

theorem mem_languageWords {word : String} :
    word ∈ languageWords ↔ word ∈ reservedWords ∨ word ∈ unescapedWords := by
  have hperm : languageWords.Perm (reservedWords ++ unescapedWords) := by decide +kernel
  rw [hperm.mem_iff, List.mem_append]

theorem startsWith_of_mem_languageWords {word : String} (h : word ∈ languageWords) :
    startsWith "pb_" word = false := by
  have hall : ∀ word ∈ languageWords, startsWith "pb_" word = false := by decide +kernel
  exact hall word h

theorem endsWith_of_mem_languageWords {word : String} (h : word ∈ languageWords) :
    endsWith "Map" word = false ∧ endsWith "List" word = false := by
  have hall : ∀ word ∈ languageWords, endsWith "Map" word = false ∧ endsWith "List" word = false := by
    decide +kernel
  exact hall word h

end Identifier

namespace Schema

def Field.stem (f : Field) : String := Identifier.accessorStem f.name

def Field.objectKey (f : Field) : String :=
  match f.repetition with
  | .map => f.stem ++ "Map"
  | .repeated => f.stem ++ "List"
  | .singular => Identifier.objectKey f.stem

theorem Field.mem_unescapedWords {f : Field} (h : f.objectKey ∈ Identifier.languageWords) :
    f.objectKey ∈ Identifier.unescapedWords := by
  unfold objectKey at h ⊢
  cases hr : f.repetition with
  | map =>
    rw [hr] at h
    have hend := (Identifier.endsWith_of_mem_languageWords h).1
    rw [Text.endsWith_append] at hend
    cases hend
  | repeated =>
    rw [hr] at h
    have hend := (Identifier.endsWith_of_mem_languageWords h).2
    rw [Text.endsWith_append] at hend
    cases hend
  | singular =>
    rw [hr] at h
    simp only [Identifier.objectKey] at h ⊢
    by_cases hstem : f.stem ∈ Identifier.reservedWords
    · rw [if_pos hstem] at h
      have hlead := Identifier.startsWith_of_mem_languageWords h
      rw [Text.startsWith_append] at hlead
      cases hlead
    · rw [if_neg hstem] at h ⊢
      exact (Identifier.mem_languageWords.mp h).resolve_left hstem

end Schema

namespace TypeExpr

variable {index : TypeIndex} {viewer : String} {f : Schema.Field} {t : TypeExpr}

theorem form_of_ofField (h : ofField index viewer f = .ok t) :
    (f.type.isMessage = true ∧ ∃ e, t = .message e) ∨ (f.type = .enum ∧ ∃ e, t = .enum e) ∨
      f.type.isMessage = false ∧ ∃ s, f.type.scalar f.jsType = .ok s ∧ t = .scalar s := by
  by_cases hm : f.type.isMessage = true
  · rw [ofField_of_isMessage hm] at h
    obtain ⟨e, -, h⟩ := bind_eq_ok.mp h
    exact .inl ⟨hm, e, (pure_eq_ok.mp h).symm⟩
  · have hm := Bool.eq_false_iff.mpr hm
    by_cases he : f.type = .enum
    · rw [ofField_of_enum he] at h
      obtain ⟨e, -, h⟩ := bind_eq_ok.mp h
      exact .inr (.inl ⟨he, e, (pure_eq_ok.mp h).symm⟩)
    · rw [ofField_of_scalar hm he] at h
      obtain ⟨s, hs, h⟩ := bind_eq_ok.mp h
      exact .inr (.inr ⟨hm, s, hs, (pure_eq_ok.mp h).symm⟩)

theorem isMessage_of_ofField (h : ofField index viewer f = .ok t) : t.isMessage = f.type.isMessage := by
  rcases form_of_ofField h with ⟨hm, e, rfl⟩ | ⟨he, e, rfl⟩ | ⟨hm, s, -, rfl⟩
  · exact hm.symm
  · rw [he]
    rfl
  · exact hm.symm

theorem isBytes_of_scalar {type : Schema.FieldType} {jsType : Schema.JsType} {s : ScalarType}
    (h : type.scalar jsType = .ok s) : s = .bytes ↔ type = .bytes := by
  have h := require_eq_ok.mp h
  revert h
  cases type <;> cases jsType <;> cases s <;> decide

theorem isBytes_of_ofField (h : ofField index viewer f = .ok t) :
    t.isBytes = true ↔ f.type = .bytes := by
  rcases form_of_ofField h with ⟨hm, e, rfl⟩ | ⟨he, e, rfl⟩ | ⟨-, s, hs, rfl⟩
  · have hne : f.type ≠ .bytes := by
      intro hbytes
      rw [hbytes] at hm
      cases hm
    exact iff_of_false Bool.false_ne_true hne
  · rw [he]
    exact iff_of_false Bool.false_ne_true (by decide)
  · rw [← isBytes_of_scalar hs]
    cases s <;> decide

end TypeExpr

namespace Declaration

def accessorSuffixes : List String := ["", "Map", "List", "_asU8", "_asB64", "List_asU8", "List_asB64"]

/-- The line is an accessor of this kind with this stem. -/
def IsAccessor (verb stem l : String) : Prop :=
  ∃ suffix ∈ accessorSuffixes, ∃ rest, l = verb ++ stem ++ suffix ++ "(" ++ rest

def accessorVerbs : List String := ["has", "clear", "get", "set", "add"]

def accessorCount (verb : String) (block : List String) : Nat := block.countP (startsWith verb)

theorem startsWith_of_isAccessor {verb other stem l : String} (hverb : verb ∈ accessorVerbs)
    (hother : other ∈ accessorVerbs) (h : IsAccessor other stem l) :
    startsWith verb l = decide (other = verb) := by
  obtain ⟨suffix, -, rest, rfl⟩ := h
  have hdiffer : ∀ verb ∈ accessorVerbs, ∀ other ∈ accessorVerbs, other ≠ verb →
      Text.differ verb.toList other.toList = true := by decide
  simp only [String.append_assoc]
  by_cases heq : other = verb
  · subst heq
    rw [Text.startsWith_append, decide_eq_true rfl]
  · rw [Text.startsWith_of_differ (hdiffer verb hverb other hother heq), decide_eq_false heq]

theorem accessorCount_eq {stem : String} {verbs block : List String}
    (h : List.Forall₂ (IsAccessor · stem ·) verbs block) (hverbs : verbs ⊆ accessorVerbs) {verb : String}
    (hverb : verb ∈ accessorVerbs) : accessorCount verb block = verbs.count verb := by
  induction h with
  | nil => rfl
  | @cons other l verbs block hl _ ih =>
    obtain ⟨hother, hverbs⟩ := List.cons_subset.mp hverbs
    rw [accessorCount, List.countP_cons, startsWith_of_isAccessor hverb hother hl, List.count_cons]
    exact congrArg₂ (· + ·) (ih hverbs) (by simp)

section Accessors

variable (viewer stem : String)

theorem isAccessor_render {suffix tail : String} (hsuffix : suffix ∈ accessorSuffixes) (rest : String)
    (htail : tail = suffix ++ ("(" ++ rest)) (verb : String) (others : Phrase) :
    IsAccessor verb stem (Phrase.render viewer (.text (verb ++ stem ++ tail) :: others)) := by
  refine ⟨suffix, hsuffix, rest ++ others.render viewer, ?_⟩
  rw [Phrase.render_cons, Piece.render, htail]
  simp only [String.append_assoc]

def Opens (verbs : List String) (phrases : List Phrase) : Prop :=
  List.Forall₂ (fun verb a => IsAccessor verb stem (Phrase.render viewer a)) verbs phrases

theorem opens_map (key value : TypeExpr) :
    Opens viewer stem ["get", "clear"] (mapAccessors stem key value) := by
  have hmap : "Map" ∈ accessorSuffixes := by decide
  exact .cons (isAccessor_render viewer stem hmap "): jspb.Map<" rfl "get" _)
    (.cons (isAccessor_render viewer stem hmap "): void;" rfl "clear" _) .nil)

theorem opens_repeated (t : TypeExpr) :
    Opens viewer stem (["clear", "get"] ++ (if t.isBytes then ["get", "get"] else []) ++ ["set", "add"])
      (repeatedAccessors stem t) := by
  have hlist : "List" ∈ accessorSuffixes := by decide
  have hplain : "" ∈ accessorSuffixes := by decide
  have hadd (optional : String) (others : Phrase) : IsAccessor "add" stem (Phrase.render viewer
      (.text ("add" ++ stem ++ "(value" ++ optional ++ ": ") :: others)) := by
    rw [addText_eq]
    refine isAccessor_render viewer stem hplain ("value" ++ (optional ++ ": ")) ?_ "add" others
    simp only [← String.append_assoc]
    rfl
  unfold repeatedAccessors
  refine List.rel_append (List.rel_append ?_ ?_) ?_
  · exact .cons (isAccessor_render viewer stem hlist "): void;" rfl "clear" _)
      (.cons (isAccessor_render viewer stem hlist "): Array<" rfl "get" _) .nil)
  · split
    · have hbytes : "List_asU8" ∈ accessorSuffixes := by decide
      have hbase : "List_asB64" ∈ accessorSuffixes := by decide
      exact .cons (isAccessor_render viewer stem hbytes "): Array<Uint8Array>;" rfl "get" _)
        (.cons (isAccessor_render viewer stem hbase "): Array<string>;" rfl "get" _) .nil)
    · exact .nil
  · exact .cons (isAccessor_render viewer stem hlist "value: Array<" rfl "set" _)
      (.cons (hadd _ _) .nil)

theorem opens_presence : Opens viewer stem ["has", "clear"] (presenceAccessors stem) := by
  have hplain : "" ∈ accessorSuffixes := by decide
  exact .cons (isAccessor_render viewer stem hplain "): boolean;" rfl "has" _)
    (.cons (isAccessor_render viewer stem hplain "): void;" rfl "clear" _) .nil)

theorem opens_singular (t : TypeExpr) :
    Opens viewer stem (["get"] ++ (if t.isBytes then ["get", "get"] else []) ++ ["set"])
      (singularAccessors stem t) := by
  have hplain : "" ∈ accessorSuffixes := by decide
  unfold singularAccessors
  cases ht : t.isMessage with
  | true =>
    have hbytes : t.isBytes = false := by cases t <;> trivial
    rw [hbytes, if_pos rfl]
    exact .cons (isAccessor_render viewer stem hplain "): " rfl "get" _)
      (.cons (isAccessor_render viewer stem hplain "value?: " rfl "set" _) .nil)
  | false =>
    rw [if_neg Bool.false_ne_true]
    refine List.rel_append (List.rel_append ?_ ?_) ?_
    · exact .cons (isAccessor_render viewer stem hplain "): " rfl "get" _) .nil
    · split
      · have hbytes : "_asU8" ∈ accessorSuffixes := by decide
        have hbase : "_asB64" ∈ accessorSuffixes := by decide
        exact .cons (isAccessor_render viewer stem hbytes "): Uint8Array;" rfl "get" _)
          (.cons (isAccessor_render viewer stem hbase "): string;" rfl "get" _) .nil)
      · exact .nil
    · exact .cons (isAccessor_render viewer stem hplain "value: " rfl "set" _) .nil

end Accessors

/-- What one field shows: the lines of its block, and the line of its key. -/
structure ShowsField (dialect : Schema.Dialect) (f : Schema.Field) (block : List String) (entry : String) :
    Prop where
  accessors : ∀ l ∈ block, ∃ verb ∈ accessorVerbs, IsAccessor verb (Text.upperFirst f.stem) l
  has : accessorCount "has" block = if f.hasPresence dialect then 1 else 0
  notHas : f.isRepeated = true ∨ f.isMap = true → accessorCount "has" block = 0
  clear : accessorCount "clear" block =
    if f.isMap ∨ f.isRepeated ∨ f.hasPresence dialect then 1 else 0
  set : accessorCount "set" block = if f.isMap then 0 else 1
  add : accessorCount "add" block = if f.isRepeated ∧ ¬ f.isMap then 1 else 0
  get : accessorCount "get" block = if f.type = .bytes ∧ ¬ f.isMap then 3 else 1
  key : ∃ mark type, entry = f.objectKey ++ mark ++ ": " ++ type ++ "," ∧
    (mark = "" ∨ mark = "?" ∧ accessorCount "has" block = 1)
  escaped : f.objectKey ∈ Identifier.languageWords → f.objectKey ∈ Identifier.unescapedWords

section Fields

variable {index : TypeIndex} {viewer : String} {f : Schema.Field} {p : Property}

theorem Property.cases_of_link (h : Property.link index viewer f = .ok p) :
    (f.isMap = true ∧ ∃ key value, p = ⟨f, .map key value⟩) ∨
      f.isMap = false ∧ ∃ t, TypeExpr.ofField index viewer f = .ok t ∧ p = ⟨f, .plain t⟩ := by
  unfold Property.link at h
  cases hf : f.isMap with
  | true =>
    rw [hf, if_pos rfl] at h
    obtain ⟨type, htype, h⟩ := bind_eq_ok.mp h
    obtain ⟨target, -, htype⟩ := bind_eq_ok.mp htype
    obtain ⟨entry, -, htype⟩ := bind_eq_ok.mp htype
    obtain ⟨key, -, htype⟩ := bind_eq_ok.mp htype
    obtain ⟨value, -, htype⟩ := bind_eq_ok.mp htype
    cases pure_eq_ok.mp htype
    exact .inl ⟨rfl, key, value, (pure_eq_ok.mp h).symm⟩
  | false =>
    rw [hf, if_neg Bool.false_ne_true] at h
    obtain ⟨t, ht, h⟩ := bind_eq_ok.mp h
    exact .inr ⟨rfl, t, ht, (pure_eq_ok.mp h).symm⟩

def blockVerbs (isMap isRepeated isBytes hasPresence : Bool) : List String :=
  if isMap then ["get", "clear"]
  else if isRepeated then ["clear", "get"] ++ (if isBytes then ["get", "get"] else []) ++ ["set", "add"]
  else
    (if hasPresence then ["has", "clear"] else []) ++
      (["get"] ++ (if isBytes then ["get", "get"] else []) ++ ["set"])

theorem blockVerbs_subset : ∀ isMap isRepeated isBytes hasPresence,
    blockVerbs isMap isRepeated isBytes hasPresence ⊆ accessorVerbs := by decide

theorem count_blockVerbs : ∀ isMap isRepeated isBytes hasPresence,
    let verbs := blockVerbs isMap isRepeated isBytes hasPresence
    verbs.count "has" = (if !isMap && !isRepeated && hasPresence then 1 else 0) ∧
      verbs.count "clear" = (if isMap || isRepeated || hasPresence then 1 else 0) ∧
      verbs.count "set" = (if isMap then 0 else 1) ∧
      verbs.count "add" = (if isRepeated && !isMap then 1 else 0) ∧
      verbs.count "get" = if isBytes && !isMap then 3 else 1 := by decide

def fieldVerbs (dialect : Schema.Dialect) (f : Schema.Field) : List String :=
  blockVerbs f.isMap f.isRepeated (f.type = .bytes) (f.hasPresence dialect)

theorem Property.opens_accessors (dialect : Schema.Dialect) (h : Property.link index viewer f = .ok p) :
    Opens viewer (Text.upperFirst f.stem) (fieldVerbs dialect f) (p.accessors dialect) := by
  rcases Property.cases_of_link h with ⟨hf, key, value, rfl⟩ | ⟨hf, t, ht, rfl⟩
  · rw [fieldVerbs, hf]
    exact opens_map viewer _ key value
  · have hbytes : decide (f.type = .bytes) = t.isBytes := by
      rw [Bool.eq_iff_iff, decide_eq_true_iff, TypeExpr.isBytes_of_ofField ht]
    simp only [fieldVerbs, blockVerbs, hf, if_neg Bool.false_ne_true, hbytes, Property.accessors]
    split
    · exact opens_repeated viewer _ t
    · refine List.rel_append ?_ (opens_singular viewer _ t)
      split
      · exact opens_presence viewer _
      · exact .nil

theorem Property.objectKey_of_link (dialect : Schema.Dialect) (h : Property.link index viewer f = .ok p) :
    ∃ mark, p.objectKey dialect = f.objectKey ++ mark ∧
      (mark = "" ∨ mark = "?" ∧ f.hasPresence dialect = true) := by
  rcases Property.cases_of_link h with ⟨hf, key, value, rfl⟩ | ⟨hf, t, ht, rfl⟩
  · refine ⟨"", ?_, .inl rfl⟩
    simp [Property.objectKey, Schema.Field.objectKey, Schema.Field.repetition, hf, Property.stem,
      Schema.Field.stem]
  · cases hr : f.isRepeated with
    | true =>
      refine ⟨"", ?_, .inl rfl⟩
      simp [Property.objectKey, Schema.Field.objectKey, Schema.Field.repetition, hf, hr, Property.stem,
        Schema.Field.stem]
    | false =>
      have hkey : f.objectKey = Identifier.objectKey f.stem := by
        simp [Schema.Field.objectKey, Schema.Field.repetition, hf, hr]
      have hmessage : t.isMessage = f.isMessage := TypeExpr.isMessage_of_ofField ht
      have hmarked : Property.objectKey dialect ⟨f, .plain t⟩ =
          if t.isMessage || dialect == .proto2 || f.proto3Optional then f.objectKey ++ "?"
          else f.objectKey := by
        rw [hkey]
        exact if_neg (Bool.eq_false_iff.mp hr)
      cases hmark : t.isMessage || dialect == .proto2 || f.proto3Optional with
      | true =>
        refine ⟨"?", ?_, .inr ⟨rfl, ?_⟩⟩
        · rw [hmarked, hmark, if_pos rfl]
        · rw [hmessage] at hmark
          rw [Schema.Field.hasPresence, hr, Bool.not_false, Bool.true_and]
          simp only [Bool.or_eq_true] at hmark ⊢
          rcases hmark with (hmark | hmark) | hmark
          · exact .inl (.inr hmark)
          · exact .inr hmark
          · exact .inl (.inl (.inr hmark))
      | false =>
        refine ⟨"", ?_, .inl rfl⟩
        rw [hmarked, hmark, if_neg Bool.false_ne_true, String.append_empty]

theorem hasPresence_of_isRepeated (dialect : Schema.Dialect) (h : f.isRepeated = true) :
    f.hasPresence dialect = false := by
  rw [Schema.Field.hasPresence, h, Bool.not_true, Bool.false_and]

theorem Property.showsField (dialect : Schema.Dialect) (hmap : f.isMap = true → f.isRepeated = true)
    (h : Property.link index viewer f = .ok p) :
    ShowsField dialect f ((p.accessors dialect).map (Phrase.render viewer))
      ((p.objectEntry dialect).render viewer) := by
  have hopens : List.Forall₂ (IsAccessor · (Text.upperFirst f.stem) ·) (fieldVerbs dialect f)
      ((p.accessors dialect).map (Phrase.render viewer)) :=
    List.forall₂_map_right_iff.mpr (Property.opens_accessors dialect h)
  have hverbs : fieldVerbs dialect f ⊆ accessorVerbs := blockVerbs_subset _ _ _ _
  have hcount {verb : String} (hverb : verb ∈ accessorVerbs) := accessorCount_eq hopens hverbs hverb
  obtain ⟨hhas, hclear, hset, hadd, hget⟩ :=
    count_blockVerbs f.isMap f.isRepeated (f.type = .bytes) (f.hasPresence dialect)
  have hblockHas : accessorCount "has" ((p.accessors dialect).map (Phrase.render viewer)) =
      if f.hasPresence dialect then 1 else 0 := by
    rw [hcount (by decide), fieldVerbs, hhas]
    cases hr : f.isRepeated with
    | true => simp [hasPresence_of_isRepeated dialect hr]
    | false =>
      -- Fields with presence are not repeated, and all maps are.
      have hf : f.isMap = false := Bool.eq_false_iff.mpr fun hf => Bool.false_ne_true (hr.symm.trans (hmap hf))
      simp [hf]
  constructor
  case accessors =>
    intro l hl
    obtain ⟨verb, hverb, hl⟩ := exists_related hopens.flip hl
    exact ⟨verb, hverbs hverb, hl⟩
  case has => exact hblockHas
  case notHas =>
    intro h
    have hr : f.isRepeated = true := h.elim id hmap
    rw [hblockHas, hasPresence_of_isRepeated dialect hr, if_neg Bool.false_ne_true]
  case clear =>
    rw [hcount (by decide), fieldVerbs, hclear]
    simp [or_assoc]
  case set => rw [hcount (by decide), fieldVerbs, hset]
  case add =>
    rw [hcount (by decide), fieldVerbs, hadd]
    simp
  case get =>
    rw [hcount (by decide), fieldVerbs, hget]
    simp
  case key =>
    obtain ⟨mark, hkey, hmark⟩ := Property.objectKey_of_link dialect h
    refine ⟨mark, Phrase.render viewer p.objectType, ?_, ?_⟩
    · rw [Property.objectEntry, List.cons_append, Phrase.render_cons, Phrase.render_append, hkey]
      simp [Piece.render, Phrase.render, String.append_assoc]
    · refine hmark.imp id fun hmark => ⟨hmark.1, ?_⟩
      rw [hblockHas, if_pos hmark.2]
  case escaped => exact Schema.Field.mem_unescapedWords

end Fields

theorem indentBy_map_line {α : Type} (n : Nat) (content : α → String) (xs : List α) :
    indentBy n (xs.map fun x => line (content x)) = (xs.map content).map (Line.text n) := by
  simp [indentBy, Line.indentBy, line]

theorem Property.indentBy_lines (dialect : Schema.Dialect) (viewer : String) (n : Nat) (p : Property) :
    indentBy n (p.lines dialect viewer) =
      ((p.accessors dialect).map (Phrase.render viewer)).map (Line.text n) ++ [.blank] := by
  rw [Property.lines, indentBy_append, indentBy_map_line]
  rfl

/-- A loaded message shows one block and one key for each field, in the order of the fields. Before the
accessors of the cases and the members that all classes have, its class holds nothing else, and its
plain-object form holds nothing but the keys. -/
theorem printMessage_fields {scope : String} {d : Descriptor.Message} {m : Schema.Message}
    (hload : Schema.Message.load scope d = .ok m) (hm : m.isMapEntry = false) {index : TypeIndex}
    {dialect : Schema.Dialect} {viewer : String} {level : Nat} {ls : List Line}
    (h : printMessage index dialect viewer level m = .ok ls) :
    (∃ parts : List (List String × String),
      List.Forall₂ (fun f p => ShowsField dialect f p.1 p.2) m.fields parts ∧
      classBody level m.name ls =
        (parts.flatMap fun p => p.1.map (Line.text (level + 1)) ++ [.blank]) ++
          (((realOneofs m.oneofs m.fields).map fun o => o.caseAccessor m.name) ++
            commonMembers m.name).map (Line.text (level + 1)) ∧
      objectBody level m.name ls = parts.map fun p => Line.text (level + 2) p.2) ∧
    ((∀ n ∈ m.withNested, n.Named) → (∀ e ∈ index.exports, Text.Flat (e.reference viewer)) →
      Text.splitChars '\n' (render ls).toList = ls.map lineChars ++ [[]]) := by
  refine ⟨?_, fun hnames hindex => splitChars_of_printMessage hindex hnames hm h⟩
  have hmap : ∀ f ∈ m.fields, f.isMap = true → f.isRepeated = true := by
    intro f hf hmap
    obtain ⟨x, -, hx⟩ := (mem_results (Schema.Message.loadedFrom hload).fields).mp hf
    rw [(Schema.Field.loadedFrom hx).isMap, Bool.and_eq_true] at hmap
    exact hmap.1
  obtain ⟨m', hlink, rfl⟩ := exists_link_of_printMessage hm h
  obtain ⟨hname, hproperties, honeofs⟩ := Message.parts_of_link hlink
  refine ⟨m'.properties.map fun p => ((p.accessors dialect).map (Phrase.render viewer),
    (p.objectEntry dialect).render viewer), ?_, ?_, ?_⟩
  · rw [List.forall₂_map_right_iff]
    exact related_of_results hproperties fun f hf p hp => Property.showsField dialect (hmap f hf) hp
  · have hblocks : indentBy (level + 1) (m'.properties.flatMap (Property.lines dialect viewer)) =
        m'.properties.flatMap fun p =>
          ((p.accessors dialect).map (Phrase.render viewer)).map (Line.text (level + 1)) ++ [.blank] := by
      rw [indentBy, List.map_flatMap]
      exact List.flatMap_congr fun p _ => p.indentBy_lines dialect viewer (level + 1)
    have hcommon : indentBy (level + 1) ((commonMembers m'.name).map line) =
        (commonMembers m'.name).map (Line.text (level + 1)) :=
      (indentBy_map_line (level + 1) id (commonMembers m'.name)).trans (by rw [List.map_id])
    rw [← hname, Message.classBody_lines, ← honeofs, indentBy_append, indentBy_append, hblocks,
      indentBy_map_line, hcommon, List.flatMap_map, List.map_append, List.append_assoc]
  · rw [← hname, Message.objectBody_lines, indentBy_map_line, List.map_map, List.map_map]
    rfl

/-- A message with repeated bytes, with single bytes that may be unset, and with a name that is escaped. -/
def partsDescriptor : Descriptor.Message where
  name := some "Parts"
  fields := [
    { name := some "blobs", number := some 1, label := some 3, type := some 12 },
    { name := some "last_blob", number := some 2, type := some 12, oneofIndex := some 0,
      proto3Optional := some true },
    { name := some "class", number := some 3, type := some 5 }]
  oneofs := [{ name := some "_last_blob" }]

theorem partsDescriptor_fields : ∃ m ls, Schema.Message.load "" partsDescriptor = .ok m ∧
    m.isMapEntry = false ∧ printMessage {} .proto3 "parts.proto" 0 m = .ok ls ∧
    (∃ parts : List (List String × String),
      List.Forall₂ (fun f p => ShowsField .proto3 f p.1 p.2) m.fields parts ∧
      objectBody 0 "Parts" ls = parts.map fun p => Line.text 2 p.2) ∧
    objectBody 0 "Parts" ls =
      [.text 2 "blobsList: Array<Uint8Array | string>,", .text 2 "lastBlob?: Uint8Array | string,",
        .text 2 "pb_class: number,"] := by
  obtain ⟨m, hload⟩ : Succeeds (Schema.Message.load "" partsDescriptor) := ⟨_, rfl⟩
  have hm : m.isMapEntry = false := by
    cases hload
    rfl
  obtain ⟨ls, hprint⟩ : Succeeds (printMessage {} .proto3 "parts.proto" 0 m) := by
    cases hload
    exact ⟨_, rfl⟩
  obtain ⟨⟨parts, hparts, -, hobject⟩, -⟩ := printMessage_fields hload hm hprint
  refine ⟨m, ls, hload, hm, hprint, ?_⟩
  cases hload
  cases hprint
  exact ⟨⟨parts, hparts, hobject⟩, by decide⟩

/-- A message with a field whose name is a reserved word that is not escaped. -/
def trueDescriptor : Descriptor.Message where
  name := some "M"
  fields := [{ name := some "true", number := some 1, type := some 8 }]

def hiddenDescriptor : Descriptor.Message where
  name := some "E"
  fields := [
    { name := some "key", number := some 1, type := some 9 },
    { name := some "value", number := some 2, type := some 9 }]
  options := some { mapEntry := some true }

/-- A key can be a reserved word, and the fields of a pair type have no keys. -/
theorem trueDescriptor_key :
    (∃ m ls, Schema.Message.load "" trueDescriptor = .ok m ∧
      printMessage {} .proto3 "a.proto" 0 m = .ok ls ∧
      objectBody 0 m.name ls = [.text 2 "true: boolean,"] ∧ "true" ∈ Identifier.languageWords) ∧
    ∃ m, Schema.Message.load "" hiddenDescriptor = .ok m ∧ m.fields.length = 2 ∧
      printMessage {} .proto3 "a.proto" 0 m = .ok [] ∧ objectBody 0 m.name [] = [] :=
  ⟨⟨_, _, rfl, rfl, by decide, by decide⟩, _, rfl, rfl, rfl, rfl⟩

end Declaration

end ProtoStubs
