import ProtoStubs.Proofs.Rows

/-!
# References and the text around them

A linked declaration can be made to refer to other types, under other names, and to keep all else. Its rows
then keep their text and print the other types in the same places. So what a row prints beside its types
tells nothing of what these types are.
-/

namespace ProtoStubs

/-- Other types in place of those that are referred to, and other names in place of theirs. -/
structure Redirection where
  target : Export → Export
  typeName : String → String

def TypeExpr.redirect (ρ : Redirection) : TypeExpr → TypeExpr
  | .scalar type => .scalar type
  | .message e => .message (ρ.target e)
  | .enum e => .enum (ρ.target e)

@[simp] theorem TypeExpr.isMessage_redirect (ρ : Redirection) (t : TypeExpr) :
    (t.redirect ρ).isMessage = t.isMessage := by
  cases t <;> rfl

@[simp] theorem TypeExpr.isBytes_redirect (ρ : Redirection) (t : TypeExpr) :
    (t.redirect ρ).isBytes = t.isBytes := by
  cases t <;> rfl

def Schema.Field.redirect (ρ : Redirection) (f : Schema.Field) : Schema.Field :=
  { f with typeName := ρ.typeName f.typeName }

namespace Declaration

open Layout

section Redirect

variable (ρ : Redirection)

def PropertyType.redirect : PropertyType → PropertyType
  | .plain type => .plain (type.redirect ρ)
  | .map key value => .map (key.redirect ρ) (value.redirect ρ)

def Property.redirect (p : Property) : Property := ⟨p.field.redirect ρ, p.type.redirect ρ⟩

def Extension.redirect (x : Extension) : Extension := ⟨x.field.redirect ρ, x.type.redirect ρ⟩

def Oneof.redirect (o : Oneof) : Oneof := ⟨o.name, o.members.map (Schema.Field.redirect ρ)⟩

mutual

def Message.redirect : Message → Message
  | ⟨name, properties, nested, enums, oneofs, extensions⟩ =>
    ⟨name, properties.map (Property.redirect ρ), redirectMessages nested, enums,
      oneofs.map (Oneof.redirect ρ), extensions.map (Extension.redirect ρ)⟩

def redirectMessages : List Message → List Message
  | [] => []
  | m :: rest => m.redirect :: redirectMessages rest

end

theorem redirectMessages_eq_map (ms : List Message) :
    redirectMessages ρ ms = ms.map (Message.redirect ρ) := by
  induction ms with
  | nil => rfl
  | cons m rest ih => simp [redirectMessages, ih]

def File.redirect (d : File) : File :=
  { d with
    messages := d.messages.map (Message.redirect ρ)
    extensions := d.extensions.map (Extension.redirect ρ) }

def Piece.redirect : Piece → Piece
  | .text content => .text content
  | .type shown => .type (shown.redirect ρ)
  | .object shown => .object (shown.redirect ρ)

def Phrase.redirect (phrase : Phrase) : Phrase := phrase.map (Piece.redirect ρ)

def Row.redirect (r : Row) : Row where
  place := r.place
  content := match r.content with
    | .plain line => .plain line
    | .phrase content => .phrase (content.redirect ρ)

end Redirect

section Rows

variable {ρ : Redirection}

theorem rowsAt_redirect (place : Place) (lines : List Line) :
    (rowsAt place lines).map (Row.redirect ρ) = rowsAt place lines := by
  rw [rowsAt, List.map_map]
  rfl

theorem map_phraseRow_redirect (place : Place) (phrases : List Phrase) :
    (phrases.map (phraseRow place)).map (Row.redirect ρ) =
      (phrases.map (Phrase.redirect ρ)).map (phraseRow place) := by
  rw [List.map_map, List.map_map]
  rfl

theorem repeatedAccessors_redirect (stem : String) (t : TypeExpr) :
    repeatedAccessors stem (t.redirect ρ) = (repeatedAccessors stem t).map (Phrase.redirect ρ) := by
  simp only [repeatedAccessors, TypeExpr.isMessage_redirect, TypeExpr.isBytes_redirect]
  cases t.isBytes <;> rfl

theorem singularAccessors_redirect (stem : String) (t : TypeExpr) :
    singularAccessors stem (t.redirect ρ) = (singularAccessors stem t).map (Phrase.redirect ρ) := by
  simp only [singularAccessors, TypeExpr.isMessage_redirect, TypeExpr.isBytes_redirect]
  cases t.isMessage
  · cases t.isBytes <;> rfl
  · rfl

theorem Property.accessors_redirect (dialect : Schema.Dialect) (p : Property) :
    (p.redirect ρ).accessors dialect = (p.accessors dialect).map (Phrase.redirect ρ) := by
  obtain ⟨field, type⟩ := p
  cases type with
  | map key value => rfl
  | plain type =>
    have hrepeated : (field.redirect ρ).isRepeated = field.isRepeated := rfl
    have hpresence : (field.redirect ρ).hasPresence dialect = field.hasPresence dialect := rfl
    simp only [accessors, redirect, PropertyType.redirect, hrepeated, hpresence]
    split
    · exact repeatedAccessors_redirect _ type
    · rw [List.map_append, ← singularAccessors_redirect]
      apply congrArg (· ++ _)
      split <;> rfl

theorem Property.objectEntry_redirect (dialect : Schema.Dialect) (p : Property) :
    (p.redirect ρ).objectEntry dialect = (p.objectEntry dialect).redirect ρ := by
  obtain ⟨field, type⟩ := p
  cases type with
  | map key value => rfl
  | plain type =>
    have hrepeated : (field.redirect ρ).isRepeated = field.isRepeated := rfl
    simp only [objectEntry, objectKey, objectType, redirect, PropertyType.redirect, hrepeated,
      TypeExpr.isMessage_redirect]
    split <;> rfl

theorem Extension.rows_redirect (path : List String) (x : Extension) :
    (x.redirect ρ).rows path = (x.rows path).map (Row.redirect ρ) := by
  have hconstant : (x.redirect ρ).constant = x.constant.redirect ρ := by
    have hrepeated : (x.field.redirect ρ).isRepeated = x.field.isRepeated := rfl
    simp only [constant, redirect, hrepeated]
    split <;> rfl
  rw [rows, hconstant]
  rfl

theorem Oneof.lines_redirect (o : Oneof) : (o.redirect ρ).lines = o.lines := by
  simp only [lines, redirect, List.map_map]
  rfl

variable (dialect : Schema.Dialect)

theorem classRows_redirect (scope : List String) (name : String) (properties : List Property)
    (oneofs : List Oneof) :
    classRows dialect scope name (properties.map (Property.redirect ρ)) (oneofs.map (Oneof.redirect ρ)) =
      (classRows dialect scope name properties oneofs).map (Row.redirect ρ) := by
  have hproperty (p : Property) : (p.redirect ρ).rows dialect (scope ++ [name]) =
      (p.rows dialect (scope ++ [name])).map (Row.redirect ρ) := by
    rw [Property.rows, Property.accessors_redirect, ← map_phraseRow_redirect, Property.rows,
      List.map_append, rowsAt_redirect]
  simp only [classRows, List.map_append, rowsAt_redirect, List.flatMap_map, List.map_flatMap, hproperty,
    List.map_map]
  rfl

theorem objectRows_redirect (path : List String) (properties : List Property) :
    objectRows dialect path (properties.map (Property.redirect ρ)) =
      (objectRows dialect path properties).map (Row.redirect ρ) := by
  simp only [objectRows, List.map_append, rowsAt_redirect, List.map_map, Function.comp_def,
    Property.objectEntry_redirect]
  rfl

theorem Message.rows_redirect (m : Message) (scope : List String) :
    (m.redirect ρ).rows dialect scope = (m.rows dialect scope).map (Row.redirect ρ) := by
  induction m using Message.induct generalizing scope with
  | step m ih =>
    obtain ⟨name, properties, nested, enums, oneofs, extensions⟩ := m
    have hnested : (nested.map (Message.redirect ρ)).flatMap (Message.rows dialect (scope ++ [name])) =
        (nested.flatMap (Message.rows dialect (scope ++ [name]))).map (Row.redirect ρ) := by
      rw [List.flatMap_map, List.map_flatMap]
      exact List.flatMap_congr fun n hn => ih n hn (scope ++ [name])
    have hextensions : (extensions.map (Extension.redirect ρ)).flatMap (Extension.rows (scope ++ [name])) =
        (extensions.flatMap (Extension.rows (scope ++ [name]))).map (Row.redirect ρ) := by
      rw [List.flatMap_map, List.map_flatMap]
      exact List.flatMap_congr fun x _ => Extension.rows_redirect (scope ++ [name]) x
    have honeofs : (oneofs.map (Oneof.redirect ρ)).flatMap Oneof.lines = oneofs.flatMap Oneof.lines := by
      rw [List.flatMap_map]
      exact List.flatMap_congr fun o _ => Oneof.lines_redirect o
    rw [redirect, redirectMessages_eq_map, Message.rows_eq, Message.rows_eq]
    simp only [List.map_append, rowsAt_redirect, classRows_redirect, objectRows_redirect, hnested,
      hextensions, honeofs]

/-- Rows print other types in the same places, and the same text around them. -/
theorem File.rows_redirect (ρ : Redirection) (d : File) :
    (d.redirect ρ).rows = d.rows.map (Row.redirect ρ) := by
  simp only [File.rows, File.redirect, List.map_append, rowsAt_redirect, List.flatMap_map,
    List.map_flatMap, Message.rows_redirect, Extension.rows_redirect]

end Rows

end Declaration

end ProtoStubs
