import ProtoStubs.Declaration.Print
import ProtoStubs.Proofs.Linking

/-!
# The rows of a declaration

The body of a declaration file is a list of rows. A row is a line that knows the place it stands in and
keeps the types that it prints apart from its text. Every type of a linked file is printed in some row, and
the rows print no others.
-/

namespace ProtoStubs.Declaration

open Layout

/-- The part of a declaration that a row belongs to. A path names a message by the messages around it,
its own name last; the empty path is the module. -/
inductive Place
  | inClass (path : List String)
  | inObjectType (path : List String)
  | inNamespace (path : List String)
  deriving DecidableEq

/-- The namespaces that a place stands in, the innermost last. The class of a message stands beside the
namespace of the same name and not inside it. -/
def Place.scope : Place → List String
  | .inClass path => path.dropLast
  | .inObjectType path | .inNamespace path => path

def Place.depth : Place → Nat
  | .inClass path | .inNamespace path => path.length
  | .inObjectType path => path.length + 1

theorem Phrase.render_cons (viewer : String) (piece : Piece) (phrase : Phrase) :
    Phrase.render viewer (piece :: phrase) = piece.render viewer ++ phrase.render viewer := by
  simp [Phrase.render]

theorem Phrase.render_append (viewer : String) (xs ys : Phrase) :
    Phrase.render viewer (xs ++ ys) = xs.render viewer ++ ys.render viewer := by
  simp [Phrase.render]

inductive Content
  | plain (line : Line)
  | phrase (content : Phrase)
  deriving DecidableEq

def Content.line (viewer : String) : Content → Line
  | .plain line => line
  | .phrase content => .text 0 (content.render viewer)

structure Row where
  place : Place
  content : Content
  deriving DecidableEq

def Row.line (viewer : String) (r : Row) : Line :=
  (r.content.line viewer).indentBy r.place.depth

def Piece.target? : Piece → Option Export
  | .text _ => none
  | .type shown | .object shown => shown.target?

def Phrase.targets (phrase : Phrase) : List Export := phrase.filterMap Piece.target?

def Row.targets (r : Row) : List Export :=
  match r.content with
  | .plain _ => []
  | .phrase content => content.targets

def rowsAt (place : Place) (lines : List Line) : List Row :=
  lines.map fun l => ⟨place, .plain l⟩

def phraseRow (place : Place) (phrase : Phrase) : Row := ⟨place, .phrase phrase⟩

def Property.rows (dialect : Schema.Dialect) (path : List String) (p : Property) : List Row :=
  (p.accessors dialect).map (phraseRow (.inClass path)) ++ rowsAt (.inClass path) [.blank]

def classRows (dialect : Schema.Dialect) (scope : List String) (name : String)
    (properties : List Property) (oneofs : List Oneof) : List Row :=
  rowsAt (.inNamespace scope)
    [line ("export class " ++ name ++ " extends jspb.Message " ++ openBrace)] ++
  properties.flatMap (Property.rows dialect (scope ++ [name])) ++
  rowsAt (.inClass (scope ++ [name]))
    ((oneofs.map fun o => line (o.caseAccessor name)) ++ (commonMembers name).map line) ++
  rowsAt (.inNamespace scope) [line closeBrace]

def objectRows (dialect : Schema.Dialect) (path : List String) (properties : List Property) :
    List Row :=
  rowsAt (.inNamespace path) [line ("export type AsObject = " ++ openBrace)] ++
  (properties.map fun p => phraseRow (.inObjectType path) (p.objectEntry dialect)) ++
  rowsAt (.inNamespace path) [line closeBrace]

def Extension.rows (path : List String) (e : Extension) : List Row :=
  rowsAt (.inNamespace path) [.blank] ++ [phraseRow (.inNamespace path) e.constant]

mutual

def Message.rows (dialect : Schema.Dialect) (scope : List String) : Message → List Row
  | ⟨name, properties, nested, enums, oneofs, extensions⟩ =>
    rowsAt (.inNamespace scope) [.blank] ++
    classRows dialect scope name properties oneofs ++
    rowsAt (.inNamespace scope) [.blank, line ("export namespace " ++ name ++ " " ++ openBrace)] ++
    objectRows dialect (scope ++ [name]) properties ++
    rowsOfMessages dialect (scope ++ [name]) nested ++
    rowsAt (.inNamespace (scope ++ [name]))
      (enums.flatMap enumLines ++ oneofs.flatMap Oneof.lines) ++
    extensions.flatMap (Extension.rows (scope ++ [name])) ++
    rowsAt (.inNamespace scope) [line closeBrace]

def rowsOfMessages (dialect : Schema.Dialect) (scope : List String) : List Message → List Row
  | [] => []
  | m :: rest => m.rows dialect scope ++ rowsOfMessages dialect scope rest

end

theorem rowsOfMessages_eq_flatMap (dialect : Schema.Dialect) (scope : List String)
    (ms : List Message) :
    rowsOfMessages dialect scope ms = ms.flatMap (Message.rows dialect scope) := by
  induction ms with
  | nil => rfl
  | cons m rest ih => simp [rowsOfMessages, ih]

def File.rows (f : File) : List Row :=
  f.messages.flatMap (Message.rows f.dialect []) ++ f.extensions.flatMap (Extension.rows []) ++
    rowsAt (.inNamespace []) (f.enums.flatMap enumLines ++ [.blank])

theorem Message.induct {P : Message → Prop}
    (step : ∀ m : Message, (∀ n ∈ m.nested, P n) → P m) (m : Message) : P m :=
  step m fun n _hn => Message.induct step n
termination_by sizeOf m
decreasing_by
  have hlt := List.sizeOf_lt_of_mem _hn
  cases m
  simp only [Message.mk.sizeOf_spec]
  simp only at hlt
  omega

theorem Message.rows_eq (dialect : Schema.Dialect) (scope : List String) (m : Message) :
    m.rows dialect scope =
      rowsAt (.inNamespace scope) [.blank] ++
      classRows dialect scope m.name m.properties m.oneofs ++
      rowsAt (.inNamespace scope)
        [.blank, line ("export namespace " ++ m.name ++ " " ++ openBrace)] ++
      objectRows dialect (scope ++ [m.name]) m.properties ++
      m.nested.flatMap (Message.rows dialect (scope ++ [m.name])) ++
      rowsAt (.inNamespace (scope ++ [m.name]))
        (m.enums.flatMap enumLines ++ m.oneofs.flatMap Oneof.lines) ++
      m.extensions.flatMap (Extension.rows (scope ++ [m.name])) ++
      rowsAt (.inNamespace scope) [line closeBrace] := by
  cases m
  simp only [Message.rows, rowsOfMessages_eq_flatMap]

section Lines

variable (viewer : String) (dialect : Schema.Dialect)

theorem rowsAt_lines (place : Place) (lines : List Line) :
    (rowsAt place lines).map (Row.line viewer) = indentBy place.depth lines := by
  simp [rowsAt, indentBy, Row.line, Content.line]

theorem phraseRow_line (place : Place) (phrase : Phrase) :
    (phraseRow place phrase).line viewer = .text place.depth (phrase.render viewer) := rfl

theorem Property.rows_lines (path : List String) (p : Property) :
    (p.rows dialect path).map (Row.line viewer) =
      indentBy path.length (p.lines dialect viewer) := by
  rw [Property.rows, Property.lines, List.map_append, rowsAt_lines, indentBy_append]
  apply congrArg (· ++ _)
  simp only [indentBy, List.map_map]
  rfl

theorem Extension.rows_lines (path : List String) (e : Extension) :
    (e.rows path).map (Row.line viewer) = indentBy path.length (e.lines viewer) := by
  rfl

theorem flatMap_rows_lines {α : Type} {xs : List α} {rows : α → List Row} {lines : α → List Line}
    {n : Nat} (h : ∀ x ∈ xs, (rows x).map (Row.line viewer) = indentBy n (lines x)) :
    (xs.flatMap rows).map (Row.line viewer) = indentBy n (xs.flatMap lines) := by
  rw [indentBy, List.map_flatMap, List.map_flatMap]
  exact List.flatMap_congr h

theorem classRows_lines (scope : List String) (name : String) (properties : List Property)
    (oneofs : List Oneof) :
    (classRows dialect scope name properties oneofs).map (Row.line viewer) =
      indentBy scope.length (classLines dialect viewer name properties oneofs) := by
  have hproperties := flatMap_rows_lines viewer fun p (_ : p ∈ properties) =>
    Property.rows_lines viewer dialect (scope ++ [name]) p
  rw [List.length_append, List.length_singleton] at hproperties
  rw [classRows, classLines, indentBy_braced]
  simp only [List.map_append, rowsAt_lines, hproperties, Place.depth, indentBy_line,
    List.length_append, List.length_singleton, indentBy_append, List.append_assoc, List.cons_append,
    List.nil_append]

theorem objectRows_lines (path : List String) (properties : List Property) :
    (objectRows dialect path properties).map (Row.line viewer) =
      indentBy path.length (objectLines dialect viewer properties) := by
  rw [objectRows, objectLines, indentBy_braced]
  simp only [List.map_append, rowsAt_lines, Place.depth, indentBy, List.map_map]
  rfl

theorem Message.lines_eq (m : Message) :
    m.lines dialect viewer =
      [.blank] ++ classLines dialect viewer m.name m.properties m.oneofs ++ [.blank] ++
      braced ("export namespace " ++ m.name ++ " ")
        (objectLines dialect viewer m.properties ++
          m.nested.flatMap (Message.lines dialect viewer) ++
          m.enums.flatMap enumLines ++ m.oneofs.flatMap Oneof.lines ++
          m.extensions.flatMap (Extension.lines viewer)) "" := by
  cases m
  simp only [Message.lines, linesOfMessages_eq_flatMap]

theorem Message.rows_lines (m : Message) (scope : List String) :
    (m.rows dialect scope).map (Row.line viewer) =
      indentBy scope.length (m.lines dialect viewer) := by
  induction m using Message.induct generalizing scope with
  | step m ih =>
    have hnested := flatMap_rows_lines viewer fun n hn => ih n hn (scope ++ [m.name])
    have hextensions := flatMap_rows_lines viewer fun e (_ : e ∈ m.extensions) =>
      Extension.rows_lines viewer (scope ++ [m.name]) e
    have hobject := objectRows_lines viewer dialect (scope ++ [m.name]) m.properties
    rw [List.length_append, List.length_singleton] at hnested hextensions hobject
    rw [Message.rows_eq, Message.lines_eq]
    simp only [List.map_append, rowsAt_lines, classRows_lines, hobject, hnested, hextensions,
      Place.depth, indentBy_append, indentBy_braced, List.length_append, List.length_singleton]
    simp [indentBy, Line.indentBy, line]

theorem File.rows_lines (f : File) : f.rows.map (Row.line f.name) = f.bodyLines := by
  have hmessages := flatMap_rows_lines f.name fun m (_ : m ∈ f.messages) =>
    Message.rows_lines f.name f.dialect m []
  have hextensions := flatMap_rows_lines f.name fun e (_ : e ∈ f.extensions) =>
    Extension.rows_lines f.name [] e
  rw [File.rows, File.bodyLines, linesOfMessages_eq_flatMap]
  simp only [List.map_append, hmessages, hextensions, rowsAt_lines, Place.depth, List.length_nil,
    indentBy_zero, List.append_assoc]

end Lines

def PropertyType.targets : PropertyType → List Export
  | .plain type => type.target?.toList
  | .map key value => key.target?.toList ++ value.target?.toList

theorem PropertyType.forall_targets_plain {P : Export → Prop} {type : TypeExpr} :
    (∀ e ∈ (PropertyType.plain type).targets, P e) ↔ ∀ e, type.target? = some e → P e := by
  simp [PropertyType.targets]

theorem PropertyType.forall_targets_map {P : Export → Prop} {key value : TypeExpr} :
    (∀ e ∈ (PropertyType.map key value).targets, P e) ↔
      (∀ e, key.target? = some e → P e) ∧ ∀ e, value.target? = some e → P e := by
  simp [PropertyType.targets, or_imp, forall_and]

mutual

def Message.targets : Message → List Export
  | ⟨_, properties, nested, _, _, extensions⟩ =>
    properties.flatMap (·.type.targets) ++ targetsOfMessages nested ++
      extensions.flatMap (·.type.target?.toList)

def targetsOfMessages : List Message → List Export
  | [] => []
  | m :: rest => m.targets ++ targetsOfMessages rest

end

theorem targetsOfMessages_eq_flatMap (ms : List Message) :
    targetsOfMessages ms = ms.flatMap Message.targets := by
  induction ms with
  | nil => rfl
  | cons m rest ih => simp [targetsOfMessages, ih]

theorem Message.targets_eq (m : Message) :
    m.targets = m.properties.flatMap (·.type.targets) ++ m.nested.flatMap Message.targets ++
      m.extensions.flatMap (·.type.target?.toList) := by
  cases m
  simp only [Message.targets, targetsOfMessages_eq_flatMap]

def File.targets (f : File) : List Export :=
  f.messages.flatMap Message.targets ++ f.extensions.flatMap (·.type.target?.toList)

section Targets

variable {dialect : Schema.Dialect} {e : Export}

theorem mem_targets_text {content : String} {phrase : Phrase} :
    e ∈ Phrase.targets (.text content :: phrase) ↔ e ∈ phrase.targets := by
  simp [Phrase.targets, Piece.target?]

theorem mem_targets_type {t : TypeExpr} {phrase : Phrase} :
    e ∈ Phrase.targets (.type t :: phrase) ↔ t.target? = some e ∨ e ∈ phrase.targets := by
  cases h : t.target? <;> simp [Phrase.targets, Piece.target?, h, eq_comm]

theorem mem_targets_object {t : TypeExpr} {phrase : Phrase} :
    e ∈ Phrase.targets (.object t :: phrase) ↔ t.target? = some e ∨ e ∈ phrase.targets := by
  cases h : t.target? <;> simp [Phrase.targets, Piece.target?, h, eq_comm]

theorem not_mem_targets_nil : ¬ e ∈ Phrase.targets [] := by simp [Phrase.targets]

theorem mem_mapAccessors {stem : String} {key value : TypeExpr} :
    (∃ a ∈ mapAccessors stem key value, e ∈ a.targets) ↔
      key.target? = some e ∨ value.target? = some e := by
  simp [mapAccessors, mem_targets_text, mem_targets_type, not_mem_targets_nil]

theorem mem_repeatedAccessors {stem : String} {t : TypeExpr} :
    (∃ a ∈ repeatedAccessors stem t, e ∈ a.targets) ↔ t.target? = some e := by
  unfold repeatedAccessors
  cases t.isBytes <;>
    simp [mem_targets_text, mem_targets_type, not_mem_targets_nil]

theorem mem_singularAccessors {stem : String} {t : TypeExpr} :
    (∃ a ∈ singularAccessors stem t, e ∈ a.targets) ↔ t.target? = some e := by
  unfold singularAccessors
  cases t.isMessage <;> cases t.isBytes <;>
    simp [mem_targets_text, mem_targets_type, not_mem_targets_nil]

theorem not_mem_presenceAccessors {stem : String} :
    ¬ ∃ a ∈ presenceAccessors stem, e ∈ a.targets := by
  simp [presenceAccessors, mem_targets_text, not_mem_targets_nil]

theorem Property.mem_accessors (dialect : Schema.Dialect) {p : Property} :
    (∃ a ∈ p.accessors dialect, e ∈ a.targets) ↔ e ∈ p.type.targets := by
  unfold Property.accessors
  cases ht : p.type with
  | map key value =>
    simp only [mem_mapAccessors, PropertyType.targets, List.mem_append, Option.mem_toList]
  | plain type =>
    simp only [PropertyType.targets, Option.mem_toList]
    by_cases hr : p.field.isRepeated = true
    · rw [if_pos hr]
      exact mem_repeatedAccessors
    · rw [if_neg hr]
      by_cases hp : p.field.hasPresence dialect = true
      · simp only [if_pos hp, List.mem_append, or_and_right, exists_or, mem_singularAccessors,
          not_mem_presenceAccessors, false_or]
      · simp only [if_neg hp, List.nil_append, mem_singularAccessors]

theorem Property.mem_objectEntry {p : Property} :
    e ∈ (p.objectEntry dialect).targets ↔ e ∈ p.type.targets := by
  unfold Property.objectEntry Property.objectType
  cases ht : p.type with
  | map key value =>
    simp [mem_targets_text, mem_targets_object, not_mem_targets_nil, PropertyType.targets]
  | plain type =>
    cases p.field.isRepeated <;>
      simp [mem_targets_text, mem_targets_object, not_mem_targets_nil, PropertyType.targets]

theorem Extension.mem_constant {x : Extension} :
    e ∈ x.constant.targets ↔ x.type.target? = some e := by
  unfold Extension.constant
  cases x.field.isRepeated <;>
    simp [mem_targets_text, mem_targets_type, not_mem_targets_nil]

def Prints (rows : List Row) (e : Export) : Prop := ∃ r ∈ rows, e ∈ r.targets

theorem prints_append {rows others : List Row} :
    Prints (rows ++ others) e ↔ Prints rows e ∨ Prints others e := by
  simp [Prints, or_and_right, exists_or]

theorem prints_flatMap {α : Type} {xs : List α} {rows : α → List Row} :
    Prints (xs.flatMap rows) e ↔ ∃ x ∈ xs, Prints (rows x) e := by
  simp only [Prints, List.mem_flatMap]
  constructor
  · intro h
    obtain ⟨r, ⟨x, hx, hr⟩, he⟩ := h
    exact ⟨x, hx, r, hr, he⟩
  · intro h
    obtain ⟨x, hx, r, hr, he⟩ := h
    exact ⟨r, ⟨x, hx, hr⟩, he⟩

theorem prints_map_phraseRow {α : Type} {xs : List α} {place : Place} {phrase : α → Phrase} :
    Prints (xs.map fun x => phraseRow place (phrase x)) e ↔ ∃ x ∈ xs, e ∈ (phrase x).targets := by
  simp [Prints, phraseRow, Row.targets]

theorem not_prints_rowsAt {place : Place} {lines : List Line} : ¬ Prints (rowsAt place lines) e := by
  simp [Prints, rowsAt, Row.targets]

theorem prints_classRows {scope : List String} {name : String} {properties : List Property}
    {oneofs : List Oneof} :
    Prints (classRows dialect scope name properties oneofs) e ↔
      ∃ p ∈ properties, e ∈ p.type.targets := by
  have haccessors (p : Property) : Prints (p.rows dialect (scope ++ [name])) e ↔
      e ∈ p.type.targets := by
    rw [Property.rows, prints_append, ← Property.mem_accessors dialect]
    simp only [not_prints_rowsAt, or_false]
    exact prints_map_phraseRow
  simp only [classRows, prints_append, prints_flatMap, not_prints_rowsAt, haccessors, or_false,
    false_or]

theorem prints_objectRows {path : List String} {properties : List Property} :
    Prints (objectRows dialect path properties) e ↔ ∃ p ∈ properties, e ∈ p.type.targets := by
  simp only [objectRows, prints_append, prints_map_phraseRow, not_prints_rowsAt, or_false, false_or,
    Property.mem_objectEntry]

theorem Extension.prints_rows {path : List String} {x : Extension} :
    Prints (x.rows path) e ↔ x.type.target? = some e := by
  rw [← Extension.mem_constant]
  simp [Prints, Extension.rows, rowsAt, phraseRow, Row.targets]

theorem Message.prints_rows {m : Message} {scope : List String} :
    Prints (m.rows dialect scope) e ↔ e ∈ m.targets := by
  induction m using Message.induct generalizing scope with
  | step m ih =>
    have hnested : (∃ n ∈ m.nested, Prints (n.rows dialect (scope ++ [m.name])) e) ↔
        ∃ n ∈ m.nested, e ∈ n.targets :=
      exists_congr fun n => and_congr_right fun hn => ih n hn
    rw [Message.rows_eq, Message.targets_eq]
    simp only [prints_append, prints_flatMap, not_prints_rowsAt, prints_classRows,
      prints_objectRows, Extension.prints_rows, hnested, List.mem_append, List.mem_flatMap,
      Option.mem_toList, or_false, false_or, or_self]

theorem File.prints_rows {f : File} : Prints f.rows e ↔ e ∈ f.targets := by
  simp only [File.rows, File.targets, prints_append, prints_flatMap, not_prints_rowsAt,
    Message.prints_rows, Extension.prints_rows, List.mem_append, List.mem_flatMap,
    Option.mem_toList, or_false]

end Targets

end ProtoStubs.Declaration
