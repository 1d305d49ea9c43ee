import ProtoStubs.Proofs.Indexing
import ProtoStubs.Proofs.WellFormed
import ProtoStubs.Resolver

/-!
# The pair types of map fields

A loaded field is a map if it is repeated and refers to a pair type nested directly in its own message. Where
the full names of messages are distinct, the index leads from such a field to that pair type and to no other
one. So the only fault that linking a declaration can find is a reference to a type that is not declared.
-/

namespace ProtoStubs

namespace Schema

/-- The message is nested directly in the message of the field, is marked as a pair type, and has the name
that the field refers to. -/
structure Message.PairType (m : Message) (f : Field) (n : Message) : Prop where
  nested : n ∈ m.nested
  isMapEntry : n.isMapEntry = true
  fullName : n.fullName = f.typeName

/-- The map fields of a loaded message are the repeated ones that refer to a pair type of the message. The
reference is that of the descriptor without the dots before it. -/
structure Message.MapsPairs (d : Descriptor.Message) (m : Message) : Prop where
  fields : List.Forall₂ (fun x f => f.typeName = bareTypeName (x.typeName.getD "") ∧
    (f.isMap = true ↔ f.isRepeated = true ∧ ∃ n, m.PairType f n)) d.fields m.fields
  extensions : ∀ x ∈ m.extensions, x.isMap = false

section Loading

variable {scope : String} {d : Descriptor.Message} {m : Message}

theorem Message.mem_mapEntryNames (h : m.LoadedFrom scope d) {name : String} :
    name ∈ mapEntryNames (d.fullName scope) d.nested ↔
      ∃ n ∈ m.nested, n.isMapEntry = true ∧ n.fullName = name := by
  simp only [mapEntryNames, List.mem_map, List.mem_filter]
  constructor
  · rintro ⟨x, ⟨hx, hentry⟩, rfl⟩
    obtain ⟨n, hn, hxn⟩ := exists_related h.nested hx
    have hload := Message.loadedFrom hxn
    exact ⟨n, hn, hload.isMapEntry.trans hentry, hload.fullName⟩
  · rintro ⟨n, hn, hentry, rfl⟩
    obtain ⟨x, hx, hxn⟩ := (mem_results h.nested).mp hn
    have hload := Message.loadedFrom hxn
    exact ⟨x, ⟨hx, hload.isMapEntry ▸ hentry⟩, hload.fullName.symm⟩

theorem Field.isMap_eq_false_of_load {x : Descriptor.Field} {f : Field} (h : Field.load [] x = .ok f) :
    f.isMap = false := by
  rw [(Field.loadedFrom h).isMap, decide_eq_false List.not_mem_nil, Bool.and_false]

theorem Message.mapsPairs_of_load (h : Message.load scope d = .ok m) : m.MapsPairs d := by
  have hload := Message.loadedFrom h
  constructor
  case fields =>
    refine related_of_results hload.fields fun x _ f hxf => ?_
    have hfield := Field.loadedFrom hxf
    refine ⟨hfield.typeName, ?_⟩
    rw [hfield.isMap, Bool.and_eq_true, decide_eq_true_iff, Message.mem_mapEntryNames hload]
    refine and_congr Iff.rfl ⟨?_, ?_⟩
    · rintro ⟨n, hn, hentry, hname⟩
      exact ⟨n, hn, hentry, hname⟩
    · rintro ⟨n, hn⟩
      exact ⟨n, hn.nested, hn.isMapEntry, hn.fullName⟩
  case extensions =>
    intro x hx
    obtain ⟨y, -, hy⟩ := (mem_results hload.extensions).mp hx
    exact Field.isMap_eq_false_of_load hy

end Loading

theorem Message.Within.trans {m n top : Message} (hmn : m.Within n) (hn : n.Within top) :
    m.Within top := by
  induction hn with
  | self => exact hmn
  | nested hk _ ih => exact .nested hk ih

theorem File.declares_nested {f : File} {m n : Message} (hm : f.Declares m) (hn : n ∈ m.nested) :
    f.Declares n := by
  obtain ⟨top, htop, hm⟩ := hm
  exact ⟨top, htop, (Message.Within.nested hn (.self n)).trans hm⟩

end Schema

/-- The error tells of a reference, on behalf of the file `viewer`, to a type that the index does not hold. -/
def TypeIndex.Lacks (index : TypeIndex) (viewer : String) (e : GenerationError) : Prop :=
  ∃ kind name, e = .unresolvedType kind name viewer ∧ index.find? kind name = none

theorem TypeIndex.lacks_of_resolve {index : TypeIndex} {kind : TypeKind} {name viewer : String}
    {e : GenerationError} (h : index.resolve kind name viewer = .error e) : index.Lacks viewer e := by
  obtain ⟨hnone, rfl⟩ := require_eq_error.mp h
  exact ⟨kind, name, rfl, hnone⟩

theorem exists_of_mapM_error {ε α β : Type} {f : α → Except ε β} {xs : List α} {e : ε}
    (h : xs.mapM f = .error e) : ∃ x ∈ xs, f x = .error e := by
  obtain ⟨x, ⟨before, after, rfl, -, -⟩, hx⟩ := mapM_eq_error.mp h
  exact ⟨x, List.mem_append_right _ List.mem_cons_self, hx⟩

theorem TypeExpr.lacks_of_ofField {index : TypeIndex} {viewer : String} {f : Schema.Field}
    {e : GenerationError} (h : TypeExpr.ofField index viewer f = .error e) : index.Lacks viewer e := by
  by_cases hm : f.type.isMessage = true
  · rw [ofField_of_isMessage hm, ofMessage, bind_pure_eq_error] at h
    exact TypeIndex.lacks_of_resolve h
  · have hm := Bool.eq_false_iff.mpr hm
    by_cases he : f.type = .enum
    · rw [ofField_of_enum he, ofEnum, bind_pure_eq_error] at h
      exact TypeIndex.lacks_of_resolve h
    · obtain ⟨s, hs⟩ := Schema.FieldType.exists_scalar hm he f.jsType
      rw [ofField_of_scalar hm he, hs] at h
      cases h

namespace Declaration

variable {index : TypeIndex} {viewer : String} {e : GenerationError}

theorem Property.link_of_pair {f : Schema.Field} (hf : f.isMap = true) {x : Export} {pair : MapEntry}
    (hx : index.find? .message f.typeName = some x) (hpair : x.mapEntry = some pair) (viewer : String) :
    Property.link index viewer f = do
      let key ← TypeExpr.ofField index viewer pair.key
      let value ← TypeExpr.ofField index viewer pair.value
      return ⟨f, .map key value⟩ := by
  have hresolve : index.resolve .message f.typeName viewer = .ok x := TypeIndex.resolve_eq_ok.mpr hx
  have hrequire : require (.notAMapEntry f.name f.typeName) x.mapEntry = .ok pair :=
    require_eq_ok.mpr hpair
  rw [Property.link, if_pos hf, PropertyType.ofMap, hresolve]
  change (do return (⟨f, ← (do
    let entry ← require (.notAMapEntry f.name f.typeName) x.mapEntry
    let key ← TypeExpr.ofField index viewer entry.key
    let value ← TypeExpr.ofField index viewer entry.value
    return PropertyType.map key value)⟩ : Property)) = _
  rw [hrequire]
  change (do return (⟨f, ← (do
    let key ← TypeExpr.ofField index viewer pair.key
    let value ← TypeExpr.ofField index viewer pair.value
    return PropertyType.map key value)⟩ : Property)) = _
  simp only [bind_assoc, pure_bind]

theorem Property.lacks_of_link {f : Schema.Field} (hf : f.HasPair index)
    (h : Property.link index viewer f = .error e) : index.Lacks viewer e := by
  cases hmap : f.isMap with
  | true =>
    obtain ⟨x, pair, hx, hpair⟩ := hf hmap
    rw [Property.link_of_pair hmap hx hpair] at h
    rcases bind_eq_error.mp h with h | ⟨key, -, h⟩
    · exact TypeExpr.lacks_of_ofField h
    · exact TypeExpr.lacks_of_ofField (bind_pure_eq_error.mp h)
  | false =>
    rw [Property.link, hmap, if_neg Bool.false_ne_true, bind_pure_eq_error] at h
    exact TypeExpr.lacks_of_ofField h

theorem Extension.lacks_of_link {f : Schema.Field} (h : Extension.link index viewer f = .error e) :
    index.Lacks viewer e :=
  TypeExpr.lacks_of_ofField (bind_pure_eq_error.mp h)

theorem Message.lacks_of_link {m : Schema.Message}
    (hpairs : ∀ n : Schema.Message, n.Within m → ∀ f ∈ n.fields, f.HasPair index)
    (h : Message.link index viewer m = .error e) : index.Lacks viewer e := by
  induction m using Schema.Message.induct with
  | step m ih =>
    rw [Message.link_eq] at h
    rcases bind_eq_error.mp h with h | ⟨properties, -, h⟩
    · obtain ⟨f, hf, h⟩ := exists_of_mapM_error h
      exact Property.lacks_of_link (hpairs m (.self m) f hf) h
    rcases bind_eq_error.mp h with h | ⟨nested, -, h⟩
    · rw [linkMessages_eq_mapM] at h
      obtain ⟨n, hn, h⟩ := exists_of_mapM_error h
      have hn := (List.mem_filter.mp hn).1
      exact ih n hn (fun k hk => hpairs k (.nested hn hk)) h
    · obtain ⟨f, -, h⟩ := exists_of_mapM_error (bind_pure_eq_error.mp h)
      exact Extension.lacks_of_link h

/-- Where every map field has its pair, a declaration fails only at a reference to an undeclared type. -/
theorem lacks_of_text {file : Schema.File}
    (hpairs : ∀ m, file.Declares m → ∀ f ∈ m.fields, f.HasPair index)
    (h : text index file = .error e) : index.Lacks file.name e := by
  have h := bind_pure_eq_error.mp h
  rcases bind_eq_error.mp h with h | ⟨messages, -, h⟩
  · rw [linkMessages_eq_mapM] at h
    obtain ⟨m, hm, h⟩ := exists_of_mapM_error h
    have hm := (List.mem_filter.mp hm).1
    exact Message.lacks_of_link (fun n hn => hpairs n ⟨m, hm, hn⟩) h
  · obtain ⟨f, -, h⟩ := exists_of_mapM_error (bind_pure_eq_error.mp h)
    exact Extension.lacks_of_link h

end Declaration

section Request

variable {ds : List Descriptor.File} {files : List Schema.File} {index : TypeIndex}

theorem TypeIndex.find?_pairType (hindex : TypeIndex.ofFiles files = .ok index)
    (hnames : (files.flatMap fun f => f.allMessages.map (·.fullName)).Nodup) {file : Schema.File}
    (hfile : file ∈ files) {m n : Schema.Message} (hm : file.Declares m) {f : Schema.Field}
    (hn : m.PairType f n) :
    ∃ e key value, index.find? .message f.typeName = some e ∧ e.mapEntry = some ⟨key, value⟩ ∧
      IsLast (·.name = "key") n.fields key ∧ IsLast (·.name = "value") n.fields value := by
  have hmem := Schema.File.declares_iff.mp (Schema.File.declares_nested hm hn.nested)
  obtain ⟨e, he, hexport⟩ := TypeIndex.find?_message hindex hfile hmem
    fun g hg k hk heq => Generate.eq_of_nodup_names hnames hfile hg hmem hk heq
  obtain ⟨⟨key, value⟩, hpair, hkey, hvalue⟩ :=
    (Export.describesMessage_of_ofMessage hexport).pair hn.isMapEntry
  rw [hn.fullName] at he
  exact ⟨e, key, value, he, hpair, hkey, hvalue⟩

theorem Schema.Message.PairType.unique
    (hnames : (files.flatMap fun f => f.allMessages.map (·.fullName)).Nodup) {file : Schema.File}
    (hfile : file ∈ files) {m n k : Schema.Message} (hm : file.Declares m) {f : Schema.Field}
    (hn : m.PairType f n) (hk : m.PairType f k) : k = n := by
  have hmem {x : Schema.Message} (hx : m.PairType f x) : x ∈ file.allMessages :=
    Schema.File.declares_iff.mp (Schema.File.declares_nested hm hx.nested)
  exact (Generate.eq_of_nodup_names hnames hfile hfile (hmem hn) (hmem hk)
    (hk.fullName.trans hn.fullName.symm)).2

theorem Schema.File.exists_pairType_of_isMap {d : Descriptor.File} {file : Schema.File}
    (h : Schema.File.load d = .ok file) {m : Schema.Message} (hm : file.Declares m) {f : Schema.Field}
    (hf : f ∈ m.fields) (hmap : f.isMap = true) : ∃ n, m.PairType f n := by
  obtain ⟨p, -, hp⟩ := (mem_results (Schema.File.allMessages_results h)).mp (declares_iff.mp hm)
  have hfields := (Schema.Message.mapsPairs_of_load hp).fields
  obtain ⟨x, -, -, hiff⟩ := exists_related hfields.flip hf
  exact (hiff.mp hmap).2

/-- Map fields are told by their pair types, and each finds its own. Neither the name of a pair type nor what
it stands for can be the fault of a declaration. -/
theorem mapFields_find_pairTypes (hload : ds.mapM Schema.File.load = .ok files)
    (hnames : (files.flatMap fun f => f.allMessages.map (·.fullName)).Nodup)
    (hindex : TypeIndex.ofFiles files = .ok index) :
    List.Forall₂ (fun d file =>
      List.Forall₂ (fun p (m : Schema.Message) => m.MapsPairs p.2) d.allMessages file.allMessages ∧
        ∀ x ∈ file.extensions, x.isMap = false) ds files ∧
    (∀ file ∈ files, ∀ m, file.Declares m → ∀ f ∈ m.fields, f.isMap = true →
      ∃ n key value, m.PairType f n ∧ (∀ k, m.PairType f k → k = n) ∧
        IsLast (·.name = "key") n.fields key ∧ IsLast (·.name = "value") n.fields value ∧
        ∀ viewer,
          (∀ mentioned, Resolver.answer ⟨viewer, index, mentioned⟩ (.mapEntry f.typeName) =
            .ok (.mapEntry (some ⟨key, value⟩))) ∧
          Declaration.Property.link index viewer f = do
            let keyType ← TypeExpr.ofField index viewer key
            let valueType ← TypeExpr.ofField index viewer value
            return ⟨f, .map keyType valueType⟩) ∧
    ∀ file ∈ files, ∀ e, Declaration.text index file = .error e →
      (∀ field typeName, e ≠ .notAMapEntry field typeName) ∧
      ∀ other ∈ files, ∀ m, other.Declares m → ∀ f ∈ m.fields, f.isMap = true →
        ∀ viewer, e ≠ .unresolvedType .message f.typeName viewer := by
  have hresults := mapM_eq_ok.mp hload
  have hpairs {file : Schema.File} (hfile : file ∈ files) {m : Schema.Message} (hm : file.Declares m)
      {f : Schema.Field} (hf : f ∈ m.fields) (hmap : f.isMap = true) : ∃ n, m.PairType f n := by
    obtain ⟨d, -, hd⟩ := (mem_results hresults).mp hfile
    exact Schema.File.exists_pairType_of_isMap hd hm hf hmap
  refine ⟨?_, ?_, ?_⟩
  · refine related_of_results hresults fun d _ file hd => ⟨?_, ?_⟩
    · exact (Schema.File.allMessages_results hd).imp fun _ _ => Schema.Message.mapsPairs_of_load
    · intro x hx
      obtain ⟨y, -, hy⟩ := (mem_results (Schema.File.loadedFrom hd).extensions).mp hx
      exact Schema.Field.isMap_eq_false_of_load hy
  · -- The reference is the full name of the pair type, and no other message has this name.
    intro file hfile m hm f hf hmap
    obtain ⟨n, hn⟩ := hpairs hfile hm hf hmap
    obtain ⟨e, key, value, he, hpair, hkey, hvalue⟩ :=
      TypeIndex.find?_pairType hindex hnames hfile hm hn
    refine ⟨n, key, value, hn, fun k hk => hn.unique hnames hfile hm hk, hkey, hvalue, ?_⟩
    intro viewer
    refine ⟨?_, Declaration.Property.link_of_pair hmap he hpair viewer⟩
    intro mentioned
    have hresolve : index.resolve .message f.typeName viewer = .ok e :=
      TypeIndex.resolve_eq_ok.mpr he
    rw [Resolver.answer, hresolve, ← hpair]
    rfl
  · -- A declaration fails at a name that the index lacks, and the index has every pair type.
    intro file hfile e he
    obtain ⟨kind, name, rfl, hnone⟩ := Declaration.lacks_of_text (fun m hm f hf hmap => by
      obtain ⟨n, hn⟩ := hpairs hfile hm hf hmap
      obtain ⟨x, key, value, hx, hpair, -, -⟩ := TypeIndex.find?_pairType hindex hnames hfile hm hn
      exact ⟨x, _, hx, hpair⟩) he
    refine ⟨fun _ _ h => (by cases h), ?_⟩
    intro other hother m hm f hf hmap viewer h
    obtain ⟨n, hn⟩ := hpairs hother hm hf hmap
    obtain ⟨x, -, -, hx, -⟩ := TypeIndex.find?_pairType hindex hnames hother hm hn
    cases h
    rw [hx] at hnone
    cases hnone

/-- A message that holds, two levels down, a map beside a repeated field of an ordinary nested message. -/
def deepMapDescriptor : Descriptor.File where
  name := some "deep.proto"
  package := some "d"
  messages := [{
    name := some "Outer"
    nested := [{
      name := some "Inner"
      fields := [
        { name := some "names", number := some 1, label := some 3, type := some 11,
          typeName := some ".d.Outer.Inner.NamesEntry" },
        { name := some "parts", number := some 2, label := some 3, type := some 11,
          typeName := some ".d.Outer.Inner.Part" }]
      nested := [
        { name := some "NamesEntry"
          fields := [
            { name := some "key", number := some 1, type := some 5 },
            { name := some "value", number := some 2, type := some 11,
              typeName := some ".d.Outer.Inner.Part" }]
          options := some { mapEntry := some true } },
        { name := some "Part" }] }] }]

theorem deepMapDescriptor_find_pairTypes : ∃ files index,
    [deepMapDescriptor].mapM Schema.File.load = .ok files ∧
    (files.flatMap fun f => f.allMessages.map (·.fullName)).Nodup ∧
    TypeIndex.ofFiles files = .ok index ∧
    (∀ file ∈ files, ∀ m, file.Declares m → ∀ f ∈ m.fields, f.isMap = true → ∃ n, m.PairType f n) ∧
    files.flatMap (fun file => file.allMessages.flatMap fun m => m.fields.map (·.isMap)) =
      [true, false, false, false] := by
  have hload : [deepMapDescriptor].mapM Schema.File.load = .ok [_] := rfl
  refine ⟨_, _, hload, by decide, rfl, ?_, rfl⟩
  obtain ⟨-, hpairs, -⟩ := mapFields_find_pairTypes hload (by decide) rfl
  intro file hfile m hm f hf hmap
  obtain ⟨n, -, -, hn, -⟩ := hpairs file hfile m hm f hf hmap
  exact ⟨n, hn⟩

end Request

end ProtoStubs
