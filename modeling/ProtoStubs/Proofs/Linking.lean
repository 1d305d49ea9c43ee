import ProtoStubs.Declaration
import ProtoStubs.Proofs.Lookup

/-!
# When a declaration can be linked

The fields that a declaration shows are those of its messages, with a map field replaced by the key and
the value of its pair type, and its extensions. Pair types show nothing of their own. Linking succeeds
exactly if every map field has its pair type and every field that is shown names a type of the index.
-/

namespace ProtoStubs

namespace Schema

def Field.reference? (f : Field) : Option (TypeKind × String) :=
  match f.type with
  | .message | .group => some (.message, f.typeName)
  | .enum => some (.enum, f.typeName)
  | _ => none

def Field.Resolves (index : TypeIndex) (f : Field) : Prop :=
  ∀ kind name, f.reference? = some (kind, name) → ∃ e, index.find? kind name = some e

def Field.HasPair (index : TypeIndex) (f : Field) : Prop :=
  f.isMap = true → ∃ e pair, index.find? .message f.typeName = some e ∧ e.mapEntry = some pair

/-- The fields whose types are printed for a field. -/
def Field.shown (index : TypeIndex) (f : Field) : List Field :=
  if f.isMap then
    match (index.find? .message f.typeName).bind (·.mapEntry) with
    | some pair => [pair.key, pair.value]
    | none => []
  else [f]

theorem Field.shown_of_pair {index : TypeIndex} {f : Field} (hf : f.isMap = true) {e : Export}
    {pair : MapEntry} (he : index.find? .message f.typeName = some e)
    (hpair : e.mapEntry = some pair) : f.shown index = [pair.key, pair.value] := by
  rw [shown, if_pos hf, he, Option.bind_some, hpair]

theorem Field.shown_of_not_isMap {index : TypeIndex} {f : Field} (hf : f.isMap = false) :
    f.shown index = [f] := by
  simp [shown, hf]

theorem Field.reference?_of_isMessage {f : Field} (h : f.type.isMessage = true) :
    f.reference? = some (.message, f.typeName) := by
  unfold reference?
  cases ht : f.type <;> simp_all [FieldType.isMessage]

theorem Field.reference?_of_enum {f : Field} (h : f.type = .enum) :
    f.reference? = some (.enum, f.typeName) := by
  rw [reference?, h]

theorem Field.reference?_of_scalar {f : Field} (hm : f.type.isMessage = false)
    (he : f.type ≠ .enum) : f.reference? = none := by
  unfold reference?
  cases ht : f.type <;> simp_all [FieldType.isMessage]

theorem FieldType.exists_scalar {t : FieldType} (hm : t.isMessage = false) (he : t ≠ .enum)
    (js : JsType) : ∃ s, t.scalar js = .ok s := by
  have hsome : (t.scalar? js).isSome = true := by
    cases t <;> cases js <;> simp_all [FieldType.isMessage, FieldType.scalar?, FieldType.is64Bit]
  obtain ⟨s, hs⟩ := Option.isSome_iff_exists.mp hsome
  exact ⟨s, require_eq_ok.mpr hs⟩

theorem Field.resolves_iff {index : TypeIndex} {f : Field} :
    f.Resolves index ↔
      (f.type.isMessage = true → ∃ e, index.find? .message f.typeName = some e) ∧
        (f.type = .enum → ∃ e, index.find? .enum f.typeName = some e) := by
  constructor
  · intro h
    exact ⟨fun hm => h _ _ (reference?_of_isMessage hm), fun he => h _ _ (reference?_of_enum he)⟩
  · intro h kind name hr
    by_cases hm : f.type.isMessage = true
    · rw [reference?_of_isMessage hm] at hr
      cases hr
      exact h.1 hm
    · by_cases he : f.type = .enum
      · rw [reference?_of_enum he] at hr
        cases hr
        exact h.2 he
      · rw [reference?_of_scalar (Bool.eq_false_iff.mpr hm) he] at hr
        cases hr

end Schema

theorem TypeIndex.resolve_eq_ok {index : TypeIndex} {kind : TypeKind} {name viewer : String}
    {e : Export} : index.resolve kind name viewer = .ok e ↔ index.find? kind name = some e :=
  require_eq_ok

namespace TypeExpr

def target? : TypeExpr → Option Export
  | .scalar _ => none
  | .message target | .enum target => some target

variable {index : TypeIndex} {viewer : String} {f : Schema.Field}

theorem ofField_of_isMessage (h : f.type.isMessage = true) :
    ofField index viewer f = ofMessage index viewer f.typeName := by
  unfold ofField resolve
  cases ht : f.type <;> simp_all [Schema.FieldType.isMessage]

theorem ofField_of_enum (h : f.type = .enum) :
    ofField index viewer f = ofEnum index viewer f.typeName := by
  rw [ofField, h, resolve]

theorem ofField_of_scalar (hm : f.type.isMessage = false) (he : f.type ≠ .enum) :
    ofField index viewer f = (do return .scalar (← f.type.scalar f.jsType)) := by
  unfold ofField resolve
  cases ht : f.type <;> simp_all [Schema.FieldType.isMessage]

theorem ofField_eq_ok {t : TypeExpr} (h : ofField index viewer f = .ok t) :
    t.target? = f.reference?.bind fun r => index.find? r.1 r.2 := by
  by_cases hm : f.type.isMessage = true
  · rw [ofField_of_isMessage hm] at h
    obtain ⟨e, he, h⟩ := bind_eq_ok.mp h
    cases pure_eq_ok.mp h
    rw [f.reference?_of_isMessage hm, Option.bind_some, TypeIndex.resolve_eq_ok.mp he, target?]
  · have hm := Bool.eq_false_iff.mpr hm
    by_cases he : f.type = .enum
    · rw [ofField_of_enum he] at h
      obtain ⟨e, hfind, h⟩ := bind_eq_ok.mp h
      cases pure_eq_ok.mp h
      rw [f.reference?_of_enum he, Option.bind_some, TypeIndex.resolve_eq_ok.mp hfind, target?]
    · rw [ofField_of_scalar hm he] at h
      obtain ⟨s, -, h⟩ := bind_eq_ok.mp h
      cases pure_eq_ok.mp h
      rw [f.reference?_of_scalar hm he, Option.bind_none, target?]

theorem succeeds_ofField (viewer : String) :
    Succeeds (ofField index viewer f) ↔ f.Resolves index := by
  have hresolve (kind : TypeKind) (name : String) (g : Export → TypeExpr) :
      Succeeds (do return g (← index.resolve kind name viewer)) ↔
        ∃ e, index.find? kind name = some e :=
    (succeeds_bind_of_total fun _ => succeeds_pure _).trans succeeds_require
  rw [Schema.Field.resolves_iff]
  by_cases hm : f.type.isMessage = true
  · have he : f.type ≠ .enum := by
      intro he
      rw [he] at hm
      cases hm
    rw [ofField_of_isMessage hm, ofMessage, hresolve]
    exact ⟨fun h => ⟨fun _ => h, fun h => absurd h he⟩, fun h => h.1 hm⟩
  · by_cases he : f.type = .enum
    · rw [ofField_of_enum he, ofEnum, hresolve]
      exact ⟨fun h => ⟨fun h => absurd h hm, fun _ => h⟩, fun h => h.2 he⟩
    · have hm' := Bool.eq_false_iff.mpr hm
      obtain ⟨s, hs⟩ := Schema.FieldType.exists_scalar hm' he f.jsType
      rw [ofField_of_scalar hm' he, hs]
      exact iff_of_true (succeeds_pure _) ⟨fun h => absurd h hm, fun h => absurd h he⟩

end TypeExpr

namespace Declaration

variable {index : TypeIndex} {viewer : String}

theorem PropertyType.succeeds_ofMap {f : Schema.Field} (hf : f.isMap = true) :
    Succeeds (PropertyType.ofMap index viewer f) ↔
      f.HasPair index ∧ ∀ g ∈ f.shown index, g.Resolves index := by
  constructor
  · intro h
    obtain ⟨e, he, h⟩ := succeeds_bind.mp h
    obtain ⟨pair, hpair, h⟩ := succeeds_bind.mp h
    obtain ⟨key, hkey, h⟩ := succeeds_bind.mp h
    obtain ⟨value, hvalue, -⟩ := succeeds_bind.mp h
    have he := TypeIndex.resolve_eq_ok.mp he
    have hpair := require_eq_ok.mp hpair
    refine ⟨fun _ => ⟨e, pair, he, hpair⟩, ?_⟩
    rw [Schema.Field.shown_of_pair hf he hpair]
    simp only [List.forall_mem_cons, ← TypeExpr.succeeds_ofField viewer]
    exact ⟨⟨key, hkey⟩, ⟨value, hvalue⟩, by simp⟩
  · intro h
    obtain ⟨e, pair, he, hpair⟩ := h.1 hf
    have hshown := h.2
    rw [Schema.Field.shown_of_pair hf he hpair] at hshown
    obtain ⟨key, hkey⟩ := (TypeExpr.succeeds_ofField viewer).mpr (hshown pair.key (by simp))
    obtain ⟨value, hvalue⟩ := (TypeExpr.succeeds_ofField viewer).mpr (hshown pair.value (by simp))
    refine succeeds_bind.mpr ⟨e, TypeIndex.resolve_eq_ok.mpr he, ?_⟩
    refine succeeds_bind.mpr ⟨pair, require_eq_ok.mpr hpair, ?_⟩
    refine succeeds_bind.mpr ⟨key, hkey, ?_⟩
    exact succeeds_bind.mpr ⟨value, hvalue, succeeds_pure _⟩

theorem Property.succeeds_link (viewer : String) {f : Schema.Field} :
    Succeeds (Property.link index viewer f) ↔
      f.HasPair index ∧ ∀ g ∈ f.shown index, g.Resolves index := by
  unfold Property.link
  cases hf : f.isMap with
  | true =>
    rw [← PropertyType.succeeds_ofMap hf, if_pos rfl]
    exact succeeds_bind_of_total fun _ => succeeds_pure _
  | false =>
    have hpair : f.HasPair index := by
      intro h
      rw [hf] at h
      cases h
    rw [Schema.Field.shown_of_not_isMap hf, List.forall_mem_singleton,
      ← TypeExpr.succeeds_ofField viewer, if_neg Bool.false_ne_true, and_iff_right hpair]
    exact succeeds_bind_of_total fun _ => succeeds_pure _

theorem Extension.succeeds_link (viewer : String) {f : Schema.Field} :
    Succeeds (Extension.link index viewer f) ↔ f.Resolves index := by
  rw [← TypeExpr.succeeds_ofField viewer]
  exact succeeds_bind_of_total fun _ => succeeds_pure _

theorem Message.link_eq (m : Schema.Message) :
    Message.link index viewer m = do
      let properties ← m.fields.mapM (Property.link index viewer)
      let nested ← linkMessages index viewer m.nested
      let extensions ← m.extensions.mapM (Extension.link index viewer)
      return {
        name := m.name
        properties
        nested
        enums := m.enums
        oneofs := realOneofs m.oneofs m.fields
        extensions } := by
  cases m
  rfl

theorem succeeds_linkMessages {ms : List Schema.Message} :
    Succeeds (linkMessages index viewer ms) ↔
      ∀ m ∈ ms, m.isMapEntry = false → Succeeds (Message.link index viewer m) := by
  rw [linkMessages_eq_mapM, succeeds_mapM]
  simp

theorem Message.succeeds_link {m : Schema.Message} :
    Succeeds (Message.link index viewer m) ↔
      (∀ f ∈ m.fields, f.HasPair index ∧ ∀ g ∈ f.shown index, g.Resolves index) ∧
      (∀ n ∈ m.nested, n.isMapEntry = false → Succeeds (Message.link index viewer n)) ∧
      ∀ f ∈ m.extensions, f.Resolves index := by
  have hparts : Succeeds (Message.link index viewer m) ↔
      Succeeds (m.fields.mapM (Property.link index viewer)) ∧
        Succeeds (linkMessages index viewer m.nested) ∧
          Succeeds (m.extensions.mapM (Extension.link index viewer)) := by
    rw [Message.link_eq]
    apply succeeds_bind_of_const
    intro properties
    apply succeeds_bind_of_const
    intro nested
    exact succeeds_bind_of_total fun _ => succeeds_pure _
  rw [hparts, succeeds_linkMessages]
  simp only [succeeds_mapM, Property.succeeds_link viewer, Extension.succeeds_link viewer]

theorem File.succeeds_link {f : Schema.File} :
    Succeeds (File.link index f) ↔
      (∀ m ∈ f.messages, m.isMapEntry = false → Succeeds (Message.link index f.name m)) ∧
      ∀ x ∈ f.extensions, x.Resolves index := by
  have hparts : Succeeds (File.link index f) ↔ Succeeds (linkMessages index f.name f.messages) ∧
      Succeeds (f.extensions.mapM (Extension.link index f.name)) := by
    apply succeeds_bind_of_const
    intro messages
    exact succeeds_bind_of_total fun _ => succeeds_pure _
  rw [hparts, succeeds_linkMessages]
  simp only [succeeds_mapM, Extension.succeeds_link f.name]

end Declaration

end ProtoStubs
