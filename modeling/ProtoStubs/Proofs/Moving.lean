import ProtoStubs.Proofs.Linking
import ProtoStubs.Proofs.Renaming

/-!
# Types under other names

The index of renamed files holds the same types under their other names. What a type shows in a text is the
file it stands in and its name inside the package, so a text that refers to it stays as it is.
-/

namespace ProtoStubs

variable {ρ : String → String}

namespace Schema

theorem Message.fieldNamed?_rename (m : Message) (name : String) :
    (m.rename ρ).fieldNamed? name = (m.fieldNamed? name).map (Field.rename ρ) := by
  rw [rename_eq, fieldNamed?, fieldNamed?]
  simp only [List.filter_map, List.getLast?_map, Function.comp_def, Field.rename]

theorem Message.withNested_rename (m : Message) :
    (m.rename ρ).withNested = m.withNested.map (Message.rename ρ) := by
  induction m using Message.induct with
  | step m ih =>
    have hnested : (m.rename ρ).nested = m.nested.map (Message.rename ρ) := by rw [rename_eq]
    rw [withNested_eq, withNested_eq m, hnested, List.map_cons, List.map_flatMap, List.flatMap_map]
    exact congrArg _ (List.flatMap_congr ih)

theorem Message.allEnums_rename (m : Message) :
    (m.rename ρ).allEnums = m.allEnums.map (Enum.rename ρ) := by
  induction m using Message.induct with
  | step m ih =>
    have hnested : (m.rename ρ).nested = m.nested.map (Message.rename ρ) := by rw [rename_eq]
    have henums : (m.rename ρ).enums = m.enums.map (Enum.rename ρ) := by rw [rename_eq]
    rw [allEnums_eq, allEnums_eq m, hnested, henums, List.map_append, List.map_flatMap,
      List.flatMap_map]
    exact congrArg (· ++ _) (List.flatMap_congr ih)

theorem File.Moved.allMessages {f f' : File} (h : f.Moved ρ f') :
    f'.allMessages = f.allMessages.map (Message.rename ρ) := by
  rw [File.allMessages, File.allMessages, allNested_eq_flatMap, allNested_eq_flatMap, h.messages,
    List.map_flatMap, List.flatMap_map]
  exact List.flatMap_congr fun m _ => m.withNested_rename

theorem File.Moved.allEnums {f f' : File} (h : f.Moved ρ f') :
    f'.allEnums = f.allEnums.map (Enum.rename ρ) := by
  rw [File.allEnums, File.allEnums, nestedEnums_eq_flatMap, nestedEnums_eq_flatMap, h.messages,
    h.enums, List.map_append, List.map_flatMap, List.flatMap_map]
  exact congrArg (· ++ _) (List.flatMap_congr fun m _ => m.allEnums_rename)

end Schema

def MapEntry.rename (ρ : String → String) (entry : MapEntry) : MapEntry :=
  ⟨entry.key.rename ρ, entry.value.rename ρ⟩

/-- A type as it is under its other name, in the same file and under the same local name. -/
structure Export.Moved (ρ : String → String) (e e' : Export) : Prop where
  kind : e'.kind = e.kind
  fullName : e'.fullName = ρ e.fullName
  fileName : e'.fileName = e.fileName
  localName : e'.localName = e.localName
  mapEntry : e'.mapEntry = e.mapEntry.map (MapEntry.rename ρ)

theorem Schema.Message.mapEntry_rename (m : Schema.Message) :
    Agree (fun o o' => o' = o.map (MapEntry.rename ρ)) m.mapEntry (m.rename ρ).mapEntry := by
  have hentry : (m.rename ρ).isMapEntry = m.isMapEntry := by rw [rename_eq]
  unfold mapEntry
  rw [hentry, fieldNamed?_rename, fieldNamed?_rename]
  cases m.isMapEntry with
  | false => exact .ok rfl
  | true =>
    cases m.fieldNamed? "key" <;> cases m.fieldNamed? "value" <;>
      first | exact .ok rfl | exact .error _ _

section Index

/-- The local names of the types of a file are as before. -/
def Schema.File.KeepsLocalNames (ρ : String → String) (f f' : Schema.File) : Prop :=
  (∀ m ∈ f.allMessages, Identifier.withinPackage f'.package (ρ m.fullName) =
    Identifier.withinPackage f.package m.fullName) ∧
  ∀ e ∈ f.allEnums, Identifier.withinPackage f'.package (ρ e.fullName) =
    Identifier.withinPackage f.package e.fullName

variable {f f' : Schema.File}

theorem Export.moved_ofMessage (h : f.Moved ρ f') (hlocal : f.KeepsLocalNames ρ f')
    {m : Schema.Message} (hm : m ∈ f.allMessages) :
    Agree (Export.Moved ρ) (Export.ofMessage f m) (Export.ofMessage f' (m.rename ρ)) := by
  have hname : (m.rename ρ).fullName = ρ m.fullName := by rw [Schema.Message.rename_eq]
  refine m.mapEntry_rename.bind_pure fun entry entry' hentry => ?_
  exact {
    kind := rfl
    fullName := hname
    fileName := h.name
    localName := by
      simp only [localName, hname]
      exact hlocal.1 m hm
    mapEntry := hentry }

theorem Export.moved_ofEnum (h : f.Moved ρ f') (hlocal : f.KeepsLocalNames ρ f')
    {e : Schema.Enum} (he : e ∈ f.allEnums) :
    Export.Moved ρ (Export.ofEnum f e) (Export.ofEnum f' (e.rename ρ)) where
  kind := rfl
  fullName := rfl
  fileName := h.name
  localName := hlocal.2 e he
  mapEntry := rfl

theorem Export.moved_ofFile (h : f.Moved ρ f') (hlocal : f.KeepsLocalNames ρ f') :
    Agree (List.Forall₂ (Export.Moved ρ)) (Export.ofFile f) (Export.ofFile f') := by
  rw [Export.ofFile, Export.ofFile, h.allMessages, h.allEnums]
  have hmessages : List.Forall₂
      (fun m m' => Agree (Export.Moved ρ) (Export.ofMessage f m) (Export.ofMessage f' m'))
      f.allMessages (f.allMessages.map (Schema.Message.rename ρ)) := by
    rw [List.forall₂_map_right_iff]
    exact List.forall₂_same.mpr fun m hm => moved_ofMessage h hlocal hm
  refine (Agree.mapM hmessages).bind_pure fun es es' hes => List.rel_append hes ?_
  rw [List.forall₂_map_left_iff, List.forall₂_map_right_iff, List.forall₂_map_right_iff]
  exact List.forall₂_same.mpr fun e he => moved_ofEnum h hlocal he

/-- The index holds the same types under their other names. -/
def TypeIndex.Moved (ρ : String → String) (index index' : TypeIndex) : Prop :=
  List.Forall₂ (Export.Moved ρ) index.exports index'.exports

theorem TypeIndex.moved_ofFiles {files files' : List Schema.File}
    (h : List.Forall₂ (fun f f' => f.Moved ρ f' ∧ f.KeepsLocalNames ρ f') files files') :
    Agree (TypeIndex.Moved ρ) (TypeIndex.ofFiles files) (TypeIndex.ofFiles files') := by
  have hfiles : List.Forall₂ (fun f f' => Agree (List.Forall₂ (Export.Moved ρ)) (Export.ofFile f)
      (Export.ofFile f')) files files' :=
    h.imp fun _ _ hf => Export.moved_ofFile hf.1 hf.2
  exact (Agree.mapM hfiles).bind_pure fun groups groups' hgroups => List.rel_flatten hgroups

variable {index index' : TypeIndex}

theorem TypeIndex.Moved.resolve (h : index.Moved ρ index') (hρ : Function.Injective ρ)
    (kind : TypeKind) (name viewer : String) :
    Agree (Export.Moved ρ) (index.resolve kind name viewer)
      (index'.resolve kind (ρ name) viewer) := by
  refine agree_require (getLast?_filter_related h fun e e' he => ?_)
  rw [he.kind, he.fullName, hρ.beq_eq]

end Index

theorem Export.Moved.namespacedName {e e' : Export} (h : e.Moved ρ e') :
    e'.namespacedName = e.namespacedName := by
  rw [Export.namespacedName, Export.namespacedName, h.fileName, h.localName]

theorem Export.Moved.reference {e e' : Export} (h : e.Moved ρ e') (viewer : String) :
    e'.reference viewer = e.reference viewer := by
  rw [Export.reference, Export.reference, h.fileName, h.localName, h.namespacedName]

inductive TypeExpr.Moved (ρ : String → String) : TypeExpr → TypeExpr → Prop
  | scalar (type : ScalarType) : Moved ρ (.scalar type) (.scalar type)
  | message {e e' : Export} (h : e.Moved ρ e') : Moved ρ (.message e) (.message e')
  | enum {e e' : Export} (h : e.Moved ρ e') : Moved ρ (.enum e) (.enum e')

namespace TypeExpr.Moved

variable {t t' : TypeExpr}

theorem text (h : t.Moved ρ t') (viewer : String) : t'.text viewer = t.text viewer := by
  cases h with
  | scalar type => rfl
  | message h => exact h.reference viewer
  | enum h => exact congrArg enumValueType (h.reference viewer)

theorem isMessage (h : t.Moved ρ t') : t'.isMessage = t.isMessage := by
  cases h <;> rfl

theorem isBytes (h : t.Moved ρ t') : t'.isBytes = t.isBytes := by
  cases h <;> rfl

theorem origin? (h : t.Moved ρ t') : t'.origin? = t.origin? := by
  cases h with
  | scalar type => rfl
  | message h => exact congrArg some h.fileName
  | enum h => exact congrArg some h.fileName

theorem objectText (h : t.Moved ρ t') (viewer : String) :
    t'.objectText viewer = t.objectText viewer := by
  have htext := h.text viewer
  cases h with
  | scalar type => rfl
  | message h => exact congrArg (· ++ ".AsObject") htext
  | enum h => exact htext

end TypeExpr.Moved

theorem option_rel_map {α β : Type} (o : Option α) (g : α → β) :
    Option.Rel (fun a b => b = g a) o (o.map g) := by
  cases o with
  | none => exact .none
  | some a => exact .some rfl

section Link

variable {index index' : TypeIndex} (h : index.Moved ρ index') (hρ : Function.Injective ρ)
  (viewer : String)

include h hρ

theorem TypeExpr.moved_ofField (f : Schema.Field) :
    Agree (TypeExpr.Moved ρ) (ofField index viewer f) (ofField index' viewer (f.rename ρ)) := by
  have htype : (f.rename ρ).type = f.type := rfl
  by_cases hm : f.type.isMessage = true
  · rw [ofField_of_isMessage hm, ofField_of_isMessage (htype ▸ hm)]
    exact (h.resolve hρ _ _ _).bind_pure fun e e' he => .message he
  · have hm := Bool.eq_false_iff.mpr hm
    by_cases he : f.type = .enum
    · rw [ofField_of_enum he, ofField_of_enum (htype ▸ he)]
      exact (h.resolve hρ _ _ _).bind_pure fun e e' he => .enum he
    · rw [ofField_of_scalar hm he, ofField_of_scalar (htype ▸ hm) (htype ▸ he)]
      refine (Agree.refl (R := Eq) (fun _ => rfl) _).bind_pure fun s s' hs => ?_
      rw [← hs]
      exact .scalar s

namespace Declaration

inductive PropertyType.Moved (ρ : String → String) : PropertyType → PropertyType → Prop
  | plain {t t' : TypeExpr} (h : t.Moved ρ t') : Moved ρ (.plain t) (.plain t')
  | map {key key' value value' : TypeExpr} (hkey : key.Moved ρ key') (hvalue : value.Moved ρ value') :
    Moved ρ (.map key value) (.map key' value')

structure Property.Moved (ρ : String → String) (p p' : Property) : Prop where
  field : p'.field = p.field.rename ρ
  type : p.type.Moved ρ p'.type

structure Extension.Moved (ρ : String → String) (x x' : Extension) : Prop where
  field : x'.field = x.field.rename ρ
  type : x.type.Moved ρ x'.type

theorem PropertyType.moved_ofMap (f : Schema.Field) :
    Agree (PropertyType.Moved ρ) (ofMap index viewer f) (ofMap index' viewer (f.rename ρ)) := by
  refine (h.resolve hρ _ _ _).bind fun target target' htarget => ?_
  rw [htarget.mapEntry]
  refine (agree_require (option_rel_map _ _)).bind fun entry _ hentry => ?_
  subst hentry
  refine (TypeExpr.moved_ofField h hρ viewer entry.key).bind fun key key' hkey => ?_
  exact (TypeExpr.moved_ofField h hρ viewer entry.value).bind_pure fun _ _ => .map hkey

theorem Property.moved_link (f : Schema.Field) :
    Agree (Property.Moved ρ) (Property.link index viewer f)
      (Property.link index' viewer (f.rename ρ)) := by
  have hmap : (f.rename ρ).isMap = f.isMap := rfl
  unfold Property.link
  rw [hmap]
  cases f.isMap with
  | true => exact (PropertyType.moved_ofMap h hρ viewer f).bind_pure fun _ _ ht => ⟨rfl, ht⟩
  | false => exact (TypeExpr.moved_ofField h hρ viewer f).bind_pure fun t t' ht => ⟨rfl, .plain ht⟩

theorem Extension.moved_link (f : Schema.Field) :
    Agree (Extension.Moved ρ) (Extension.link index viewer f)
      (Extension.link index' viewer (f.rename ρ)) :=
  (TypeExpr.moved_ofField h hρ viewer f).bind_pure fun _ _ ht => ⟨rfl, ht⟩

end Declaration

end Link

end ProtoStubs
