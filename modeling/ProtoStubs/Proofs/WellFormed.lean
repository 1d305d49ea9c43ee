import Mathlib.Data.List.Nodup
import ProtoStubs.Generate
import ProtoStubs.Proofs.Linking
import ProtoStubs.Proofs.Loading

/-!
# Which requests are answered

The conditions are stated on the descriptors as they arrive, before anything is loaded. They ask for
known dialects, complete pair types, a descriptor for each requested file, and a declaration for each
type that the output of a requested file names.
-/

namespace ProtoStubs.Descriptor

/-- The field of a message with this name; of several the last. -/
def Message.fieldNamed? (m : Message) (name : String) : Option Field :=
  (m.fields.filter (·.ownName == name)).getLast?

/-- The field is repeated, and names a pair type nested in its own message. -/
def Message.HasPairType (scope : String) (m : Message) (f : Field) (n : Message) : Prop :=
  f.labelNumber = 3 ∧ n ∈ m.nested ∧ n.isMapEntry = true ∧ n.fullName (m.fullName scope) = f.target

/-- The fields whose types are printed for a field of the message. -/
inductive Message.FieldShows (scope : String) (m : Message) (f : Field) : Field → Prop
  | own (h : ∀ n, ¬ m.HasPairType scope f n) : FieldShows scope m f f
  | pair (n : Message) (h : m.HasPairType scope f n) (p : Field)
      (hp : n.fieldNamed? "key" = some p ∨ n.fieldNamed? "value" = some p) :
      FieldShows scope m f p

/-- The fields whose types are printed for a message that stands in `scope`. -/
inductive Message.Shows : String → Message → Field → Prop
  | field {scope : String} {m : Message} {f p : Field} (h : m.isMapEntry = false)
      (hf : f ∈ m.fields) (hp : m.FieldShows scope f p) : Shows scope m p
  | nested {scope : String} {m n : Message} {p : Field} (h : m.isMapEntry = false)
      (hn : n ∈ m.nested) (hp : Shows (m.fullName scope) n p) : Shows scope m p
  | extension {scope : String} {m : Message} {p : Field} (h : m.isMapEntry = false)
      (hp : p ∈ m.extensions) : Shows scope m p

def File.Shows (d : File) (p : Field) : Prop :=
  (∃ m ∈ d.messages, m.Shows d.ownPackage p) ∨ p ∈ d.extensions

namespace Request

def messageNames (r : Request) : List String := r.files.flatMap File.messageNames

def enumNames (r : Request) : List String := r.files.flatMap File.enumNames

/-- The file with this name; of several the last. -/
def fileNamed? (r : Request) (name : String) : Option File :=
  (r.files.filter (·.ownName == name)).getLast?

end Request

/-- The type that the field names is declared, where its type number asks for one. -/
def Field.Resolves (r : Request) (f : Field) : Prop :=
  (f.typeNumber = 10 ∨ f.typeNumber = 11 → f.target ∈ r.messageNames) ∧
    (f.typeNumber = 14 → f.target ∈ r.enumNames)

def Method.Resolves (r : Request) (m : Method) : Prop :=
  Schema.bareTypeName (m.inputType.getD "") ∈ r.messageNames ∧
    Schema.bareTypeName (m.outputType.getD "") ∈ r.messageNames

structure Request.WellFormed (r : Request) (parameter : String) : Prop where
  accepted : ∃ p, Parameters.parse parameter = .ok p
  dialects : ∀ d ∈ r.files, d.KnownDialect
  pairTypes : ∀ d ∈ r.files, ∀ p ∈ d.allMessages, p.2.isMapEntry = true →
    (∃ f ∈ p.2.fields, f.ownName = "key") ∧ ∃ f ∈ p.2.fields, f.ownName = "value"
  requested : ∀ name ∈ r.filesToGenerate, ∃ d ∈ r.files, d.ownName = name
  fields : ∀ name ∈ r.filesToGenerate, ∀ d, r.fileNamed? name = some d →
    ∀ f, d.Shows f → f.Resolves r
  methods : ∀ p, Parameters.parse parameter = .ok p → p.service ≠ .none →
    ∀ name ∈ r.filesToGenerate, ∀ d, r.fileNamed? name = some d →
      ∀ s ∈ d.services, ∀ m ∈ s.methods, m.Resolves r

theorem Message.shows_iff {scope : String} {m : Message} (h : m.isMapEntry = false) {p : Field} :
    m.Shows scope p ↔ (∃ f ∈ m.fields, m.FieldShows scope f p) ∨
      (∃ n ∈ m.nested, n.Shows (m.fullName scope) p) ∨ p ∈ m.extensions := by
  constructor
  · intro hp
    cases hp with
    | field _ hf hp => exact .inl ⟨_, hf, hp⟩
    | nested _ hn hp => exact .inr (.inl ⟨_, hn, hp⟩)
    | extension _ hp => exact .inr (.inr hp)
  · intro hp
    rcases hp with ⟨f, hf, hp⟩ | ⟨n, hn, hp⟩ | hp
    · exact .field h hf hp
    · exact .nested h hn hp
    · exact .extension h hp

theorem Message.not_shows_of_isMapEntry {scope : String} {m : Message} (h : m.isMapEntry = true)
    (p : Field) : ¬ m.Shows scope p := by
  intro hp
  cases hp <;> simp_all

end ProtoStubs.Descriptor

namespace ProtoStubs.Generate

open Schema

/-- The files and the index that a run has made of a request. -/
structure Loaded (r : Descriptor.Request) (files : List Schema.File) (index : TypeIndex) : Prop where
  load : List.Forall₂ (fun x y => File.load x = .ok y) r.files files
  build : TypeIndex.ofFiles files = .ok index

variable {r : Descriptor.Request} {files : List Schema.File} {index : TypeIndex}

theorem Loaded.mem_messageNames (h : Loaded r files index) {name : String} :
    name ∈ r.messageNames ↔ ∃ e, index.find? .message name = some e := by
  rw [TypeIndex.exists_find?_message h.build, Descriptor.Request.messageNames, List.mem_flatMap]
  constructor
  · intro hname
    obtain ⟨d, hd, hname⟩ := hname
    obtain ⟨f, hf, hdf⟩ := exists_related h.load hd
    rw [← File.messageNames_eq hdf] at hname
    obtain ⟨m, hm, rfl⟩ := List.mem_map.mp hname
    exact ⟨f, hf, m, hm, rfl⟩
  · intro hname
    obtain ⟨f, hf, m, hm, rfl⟩ := hname
    obtain ⟨d, hd, hdf⟩ := (mem_results h.load).mp hf
    refine ⟨d, hd, ?_⟩
    rw [← File.messageNames_eq hdf]
    exact List.mem_map_of_mem hm

theorem Loaded.mem_enumNames (h : Loaded r files index) {name : String} :
    name ∈ r.enumNames ↔ ∃ e, index.find? .enum name = some e := by
  rw [TypeIndex.exists_find?_enum h.build, Descriptor.Request.enumNames, List.mem_flatMap]
  constructor
  · intro hname
    obtain ⟨d, hd, hname⟩ := hname
    obtain ⟨f, hf, hdf⟩ := exists_related h.load hd
    exact ⟨f, hf, (File.mem_enumNames hdf).mp hname⟩
  · intro hname
    obtain ⟨f, hf, hname⟩ := hname
    obtain ⟨d, hd, hdf⟩ := (mem_results h.load).mp hf
    exact ⟨d, hd, (File.mem_enumNames hdf).mpr hname⟩

theorem Loaded.resolves_iff (h : Loaded r files index) {entries : List String}
    {d : Descriptor.Field} {f : Field} (hf : Field.load entries d = .ok f) :
    f.Resolves index ↔ d.Resolves r := by
  have hl := Field.loadedFrom hf
  rw [Field.resolves_iff, Descriptor.Field.Resolves, h.mem_messageNames, h.mem_enumNames,
    FieldType.isMessage_ofNumber? hl.type, FieldType.eq_enum_ofNumber? hl.type, hl.typeName]

theorem eq_of_nodup_names {α : Type} {declared : Schema.File → List α} {name : α → String}
    (hnames : (files.flatMap fun f => (declared f).map name).Nodup) {f g : Schema.File}
    (hf : f ∈ files) (hg : g ∈ files) {a b : α} (ha : a ∈ declared f) (hb : b ∈ declared g)
    (heq : name b = name a) : g = f ∧ b = a := by
  -- One list of all declarations beside their files: its names are those that are distinct.
  have hmap : (files.flatMap fun f => (declared f).map fun a => (f, a)).map (fun p => name p.2) =
      files.flatMap fun f => (declared f).map name := by
    simp only [List.map_flatMap, List.map_map]
    rfl
  have hmem {k : Schema.File} (hk : k ∈ files) {x : α} (hx : x ∈ declared k) :
      (k, x) ∈ files.flatMap fun f => (declared f).map fun a => (f, a) :=
    List.mem_flatMap.mpr ⟨k, hk, List.mem_map_of_mem hx⟩
  have hpair := List.inj_on_of_nodup_map (hmap ▸ hnames) (hmem hg hb) (hmem hf ha) heq
  exact ⟨congrArg Prod.fst hpair, congrArg Prod.snd hpair⟩

theorem Loaded.unique (h : Loaded r files index) (hnames : r.messageNames.Nodup) {f g : Schema.File}
    (hf : f ∈ files) (hg : g ∈ files) {m n : Schema.Message} (hm : m ∈ f.allMessages)
    (hn : n ∈ g.allMessages) (heq : n.fullName = m.fullName) : g = f ∧ n = m := by
  have hall : (files.flatMap fun f => f.allMessages.map (·.fullName)) = r.messageNames :=
    flatMap_related h.load fun d _ f hd => File.messageNames_eq hd
  exact eq_of_nodup_names (hall ▸ hnames) hf hg hm hn heq

theorem fieldNamed?_results {scope : String} {d : Descriptor.Message} {m : Schema.Message}
    (hm : Message.load scope d = .ok m) (name : String) :
    Option.Rel (fun x y => Field.load (mapEntryNames (d.fullName scope) d.nested) x = .ok y)
      (d.fieldNamed? name) (m.fieldNamed? name) := by
  apply getLast?_filter_related (Message.loadedFrom hm).fields
  intro x y hxy
  rw [(Field.loadedFrom hxy).name]

section Linking

variable {file : Schema.File} {scope : String} {d : Descriptor.Message} {m : Schema.Message}

theorem isMap_iff_exists_pairType {entries : List String} {p : Descriptor.Field} {f : Schema.Field}
    (hentries : entries = mapEntryNames (d.fullName scope) d.nested)
    (hf : Field.load entries p = .ok f) : f.isMap = true ↔ ∃ n, d.HasPairType scope p n := by
  subst hentries
  rw [(Field.loadedFrom hf).isMap_iff]
  simp only [mapEntryNames, List.mem_map, List.mem_filter, Descriptor.Message.HasPairType]
  constructor
  · intro h
    obtain ⟨hlabel, n, ⟨hn, hentry⟩, hname⟩ := h
    exact ⟨n, hlabel, hn, hentry, hname⟩
  · intro h
    obtain ⟨n, hlabel, hn, hentry, hname⟩ := h
    exact ⟨hlabel, n, ⟨hn, hentry⟩, hname⟩

theorem Loaded.shown_map (h : Loaded r files index) (hnames : r.messageNames.Nodup)
    (hfile : file ∈ files) (hm : Message.load scope d = .ok m)
    (hsub : m.withNested ⊆ file.allMessages) {entries : List String} {p : Descriptor.Field}
    {f : Schema.Field} (hf : Field.load entries p = .ok f) (hmap : f.isMap = true)
    {n : Descriptor.Message} (hn : d.HasPairType scope p n) :
    f.HasPair index ∧ ∃ k v, n.fieldNamed? "key" = some k ∧ n.fieldNamed? "value" = some v ∧
      ((∀ g ∈ f.shown index, g.Resolves index) ↔ k.Resolves r ∧ v.Resolves r) := by
  obtain ⟨-, hmem, hentry, hname⟩ := hn
  obtain ⟨x, hx, hload⟩ := exists_related (Message.loadedFrom hm).nested hmem
  have hxl := Message.loadedFrom hload
  have hxfile : x ∈ file.allMessages := hsub (Message.withNested_subset hx x.mem_withNested_self)
  have htype : x.fullName = f.typeName := by
    rw [hxl.fullName, hname, (Field.loadedFrom hf).typeName]
  obtain ⟨e, he, hexport⟩ := TypeIndex.find?_message h.build hfile hxfile
    fun g hg y hy heq => h.unique hnames hfile hg hxfile hy heq
  obtain ⟨key, value, hkey, hvalue, hpair⟩ := Message.mapEntry_of_isMapEntry
    (hxl.isMapEntry.trans hentry) (Export.ofMessage_eq_ok hexport).2.2.2.2
  rw [htype] at he
  refine ⟨fun _ => ⟨e, _, he, hpair⟩, ?_⟩
  have hk := fieldNamed?_results hload "key"
  have hv := fieldNamed?_results hload "value"
  rw [hkey] at hk
  rw [hvalue] at hv
  rw [Field.shown_of_pair hmap he hpair, List.forall_mem_cons, List.forall_mem_singleton]
  -- The key and the value are loaded from the fields of these names of the pair type.
  generalize n.fieldNamed? "key" = ok at hk
  generalize n.fieldNamed? "value" = ov at hv
  cases hk with
  | some hk =>
    cases hv with
    | some hv => exact ⟨_, _, rfl, rfl, and_congr (h.resolves_iff hk) (h.resolves_iff hv)⟩

theorem Loaded.field_links_iff (h : Loaded r files index) (hnames : r.messageNames.Nodup)
    (hfile : file ∈ files) (hm : Message.load scope d = .ok m)
    (hsub : m.withNested ⊆ file.allMessages) {p : Descriptor.Field} {f : Schema.Field}
    (hf : Field.load (mapEntryNames (d.fullName scope) d.nested) p = .ok f) :
    (f.HasPair index ∧ ∀ g ∈ f.shown index, g.Resolves index) ↔
      ∀ q, d.FieldShows scope p q → q.Resolves r := by
  have hmap := isMap_iff_exists_pairType rfl hf
  by_cases hisMap : f.isMap = true
  · constructor
    · intro hg q hq
      cases hq with
      | own hnone =>
        obtain ⟨n, hn⟩ := hmap.mp hisMap
        exact absurd hn (hnone n)
      | pair n hn _ hkv =>
        obtain ⟨-, k, v, hk, hv, hiff⟩ := h.shown_map hnames hfile hm hsub hf hisMap hn
        have hboth := hiff.mp hg.2
        rcases hkv with hkv | hkv
        · rw [hk] at hkv
          exact Option.some.inj hkv ▸ hboth.1
        · rw [hv] at hkv
          exact Option.some.inj hkv ▸ hboth.2
    · intro hq
      obtain ⟨n, hn⟩ := hmap.mp hisMap
      obtain ⟨hpair, k, v, hk, hv, hiff⟩ := h.shown_map hnames hfile hm hsub hf hisMap hn
      exact ⟨hpair, hiff.mpr ⟨hq k (.pair n hn k (.inl hk)), hq v (.pair n hn v (.inr hv))⟩⟩
  · have hnone : ∀ n, ¬ d.HasPairType scope p n := fun n hn => hisMap (hmap.mpr ⟨n, hn⟩)
    have hpair : f.HasPair index := fun hc => absurd hc hisMap
    rw [Field.shown_of_not_isMap (Bool.eq_false_iff.mpr hisMap), List.forall_mem_singleton,
      h.resolves_iff hf, and_iff_right hpair]
    constructor
    · intro hp q hq
      cases hq with
      | own _ => exact hp
      | pair n hn => exact absurd hn (hnone n)
    · intro hq
      exact hq p (.own hnone)

/-- A message can be linked exactly if each field that it shows names a declared type. -/
theorem Loaded.message_links_iff (h : Loaded r files index) (hnames : r.messageNames.Nodup)
    (hfile : file ∈ files) (d : Descriptor.Message) (scope : String) {m : Schema.Message}
    (hm : Message.load scope d = .ok m) (hsub : m.withNested ⊆ file.allMessages)
    (hentry : d.isMapEntry = false) (viewer : String) :
    Succeeds (Declaration.Message.link index viewer m) ↔
      ∀ p, d.Shows scope p → p.Resolves r := by
  induction d using Descriptor.Message.induct generalizing scope m with
  | step d ih =>
    have hl := Message.loadedFrom hm
    have hfields := forall_results_iff hl.fields fun x y hxy =>
      h.field_links_iff hnames hfile hm hsub hxy
    have hextensions := forall_results_iff hl.extensions fun x y hxy => h.resolves_iff hxy
    have hsubset {n : Schema.Message} (hn : n ∈ m.nested) : n.withNested ⊆ file.allMessages :=
      fun _ hk => hsub (Message.withNested_subset hn hk)
    -- Pair types are not linked, and they show no fields.
    have hnested : (∀ n ∈ m.nested, n.isMapEntry = false →
        Succeeds (Declaration.Message.link index viewer n)) ↔
          ∀ n ∈ d.nested, ∀ p, n.Shows (d.fullName scope) p → p.Resolves r := by
      constructor
      · intro hall n hn p hp
        obtain ⟨k, hk, hload⟩ := exists_related hl.nested hn
        have hnot : n.isMapEntry = false := Bool.eq_false_iff.mpr fun hc =>
          Descriptor.Message.not_shows_of_isMapEntry hc p hp
        have hlink := hall k hk ((Message.loadedFrom hload).isMapEntry.trans hnot)
        exact (ih n hn _ hload (hsubset hk) hnot).mp hlink p hp
      · intro hall k hk hnot
        obtain ⟨n, hn, hload⟩ := (mem_results hl.nested).mp hk
        rw [(Message.loadedFrom hload).isMapEntry] at hnot
        exact (ih n hn _ hload (hsubset hk) hnot).mpr (hall n hn)
    rw [Declaration.Message.succeeds_link, hfields, hnested, hextensions]
    simp only [Descriptor.Message.shows_iff hentry]
    constructor
    · intro hall p hp
      rcases hp with ⟨f, hf, hp⟩ | ⟨n, hn, hp⟩ | hp
      · exact hall.1 f hf p hp
      · exact hall.2.1 n hn p hp
      · exact hall.2.2 p hp
    · intro hall
      refine ⟨?_, ?_, ?_⟩
      · exact fun f hf p hp => hall p (.inl ⟨f, hf, hp⟩)
      · exact fun n hn p hp => hall p (.inr (.inl ⟨n, hn, hp⟩))
      · exact fun p hp => hall p (.inr (.inr hp))

theorem Loaded.file_links_iff (h : Loaded r files index) (hnames : r.messageNames.Nodup)
    {d : Descriptor.File} (hfile : file ∈ files) (hload : File.load d = .ok file) :
    Succeeds (Declaration.File.link index file) ↔ ∀ p, d.Shows p → p.Resolves r := by
  have hl := File.loadedFrom hload
  have hextensions := forall_results_iff hl.extensions fun x y hxy => h.resolves_iff hxy
  have hsub {m : Schema.Message} (hm : m ∈ file.messages) : m.withNested ⊆ file.allMessages :=
    fun n hn => File.mem_allMessages.mpr ⟨m, hm, hn⟩
  rw [Declaration.File.succeeds_link, hextensions]
  constructor
  · intro hall p hp
    rcases hp with ⟨n, hn, hp⟩ | hp
    · obtain ⟨m, hm, hload⟩ := exists_related hl.messages hn
      have hnot : n.isMapEntry = false := Bool.eq_false_iff.mpr fun hc =>
        Descriptor.Message.not_shows_of_isMapEntry hc p hp
      have hlink := hall.1 m hm ((Message.loadedFrom hload).isMapEntry.trans hnot)
      exact (h.message_links_iff hnames hfile n _ hload (hsub hm) hnot file.name).mp hlink p hp
    · exact hall.2 p hp
  · intro hall
    refine ⟨?_, fun p hp => hall p (.inr hp)⟩
    intro m hm hnot
    obtain ⟨n, hn, hload⟩ := (mem_results hl.messages).mp hm
    rw [(Message.loadedFrom hload).isMapEntry] at hnot
    apply (h.message_links_iff hnames hfile n _ hload (hsub hm) hnot file.name).mpr
    exact fun p hp => hall p (.inl ⟨n, hn, hp⟩)

end Linking

theorem Loaded.method_links_iff (h : Loaded r files index) (viewer : String)
    (m : Descriptor.Method) :
    Succeeds (Service.Method.link index viewer (Method.load m)) ↔ m.Resolves r := by
  rw [Descriptor.Method.Resolves, h.mem_messageNames, h.mem_messageNames]
  constructor
  · intro hs
    obtain ⟨request, hrequest, hs⟩ := succeeds_bind.mp hs
    obtain ⟨response, hresponse, -⟩ := succeeds_bind.mp hs
    exact ⟨⟨request, TypeIndex.resolve_eq_ok.mp hrequest⟩,
      ⟨response, TypeIndex.resolve_eq_ok.mp hresponse⟩⟩
  · intro hs
    obtain ⟨⟨request, hrequest⟩, ⟨response, hresponse⟩⟩ := hs
    refine succeeds_bind.mpr ⟨request, TypeIndex.resolve_eq_ok.mpr hrequest, ?_⟩
    exact succeeds_bind.mpr ⟨response, TypeIndex.resolve_eq_ok.mpr hresponse, succeeds_pure _⟩

theorem Loaded.service_links_iff (h : Loaded r files index) {file : Schema.File}
    {d : Descriptor.File} (hload : File.load d = .ok file) (parameters : Parameters) :
    Succeeds (Service.files index parameters file) ↔
      (parameters.service ≠ .none → ∀ s ∈ d.services, ∀ m ∈ s.methods, m.Resolves r) := by
  have hservices := (File.loadedFrom hload).services
  have hstub (s : Schema.Service) : Succeeds (Service.Stub.link index file.name s) ↔
      ∀ m ∈ s.methods, Succeeds (Service.Method.link index file.name m) := by
    rw [← succeeds_mapM]
    exact succeeds_bind_of_total fun _ => succeeds_pure _
  have hfile : Succeeds (Service.File.link index file) ↔
      ∀ s ∈ file.services, Succeeds (Service.Stub.link index file.name s) := by
    rw [← succeeds_mapM]
    exact succeeds_bind_of_total fun _ => succeeds_pure _
  have hresolve : Succeeds (Service.File.link index file) ↔
      ∀ s ∈ d.services, ∀ m ∈ s.methods, m.Resolves r := by
    rw [hfile, hservices, List.forall_mem_map]
    simp only [hstub, Service.load, List.forall_mem_map, h.method_links_iff]
  unfold Service.files
  by_cases hnone : parameters.service = .none
  · simp [hnone, succeeds_ok]
  · rw [forall_prop_of_true hnone, ← hresolve]
    by_cases hempty : file.services = []
    · rw [if_pos (.inr hempty)]
      exact iff_of_true (succeeds_ok _) (hfile.mpr (by simp [hempty]))
    · rw [if_neg (by simp [hnone, hempty])]
      exact succeeds_bind_of_total fun _ => succeeds_pure _

theorem succeeds_outputs {parameters : Parameters} {file : Schema.File} :
    Succeeds (outputs index parameters file) ↔
      Succeeds (Declaration.File.link index file) ∧
        Succeeds (Service.files index parameters file) := by
  have htext : Succeeds (Declaration.text index file) ↔
      Succeeds (Declaration.File.link index file) :=
    succeeds_bind_of_total fun _ => succeeds_pure _
  rw [← htext]
  apply succeeds_bind_of_const
  intro text
  exact succeeds_bind_of_total fun _ => succeeds_pure _

theorem Loaded.fileNamed?_results (h : Loaded r files index) (name : String) :
    Option.Rel (fun x y => File.load x = .ok y) (r.fileNamed? name) (fileNamed? files name) := by
  apply getLast?_filter_related h.load
  intro x y hxy
  rw [(File.loadedFrom hxy).name]

theorem Loaded.outputsFor_iff (h : Loaded r files index) (hnames : r.messageNames.Nodup)
    (parameters : Parameters) (name : String) :
    Succeeds (outputsFor files index parameters name) ↔
      (∃ d ∈ r.files, d.ownName = name) ∧ ∀ d, r.fileNamed? name = some d →
        (∀ p, d.Shows p → p.Resolves r) ∧
          (parameters.service ≠ .none → ∀ s ∈ d.services, ∀ m ∈ s.methods, m.Resolves r) := by
  have hrel := h.fileNamed?_results name
  have hexists : (∃ d ∈ r.files, d.ownName = name) ↔ ∃ d, r.fileNamed? name = some d := by
    rw [← Option.isSome_iff_exists, Descriptor.Request.fileNamed?, List.getLast?_isSome, ne_eq,
      List.filter_eq_nil_iff]
    simp
  rw [hexists, outputsFor, succeeds_bind]
  simp only [require_eq_ok]
  cases hfile : fileNamed? files name with
  | none =>
    rw [hfile] at hrel
    cases hd : r.fileNamed? name with
    | none => simp
    | some d =>
      rw [hd] at hrel
      cases hrel
  | some file =>
    rw [hfile] at hrel
    have hmem : file ∈ files := (List.mem_filter.mp (List.mem_of_getLast? hfile)).1
    cases hd : r.fileNamed? name with
    | none =>
      rw [hd] at hrel
      cases hrel
    | some d =>
      rw [hd] at hrel
      cases hrel with
      | some hload =>
        simp only [Option.some.injEq, exists_eq_left', exists_eq', forall_eq', true_and,
          succeeds_outputs, h.file_links_iff hnames hmem hload, h.service_links_iff hload]

end ProtoStubs.Generate

namespace ProtoStubs

open Generate

theorem generate_eq_ok {r : Descriptor.Request} {override : Option String} {response : Response} :
    generate r override = .ok response ↔
      ∃ parameters files index groups,
        Parameters.parse (effectiveParameter r override) = .ok parameters ∧
        Loaded r files index ∧
        List.Forall₂ (fun name group =>
          outputsFor files index parameters name = .ok group) r.filesToGenerate groups ∧
        response = { files := groups.flatten } := by
  constructor
  · intro h
    obtain ⟨parameters, hparameters, h⟩ := bind_eq_ok.mp h
    obtain ⟨files, hfiles, h⟩ := bind_eq_ok.mp h
    obtain ⟨index, hindex, h⟩ := bind_eq_ok.mp h
    obtain ⟨groups, hgroups, h⟩ := bind_eq_ok.mp h
    exact ⟨parameters, files, index, groups, hparameters, ⟨mapM_eq_ok.mp hfiles, hindex⟩,
      mapM_eq_ok.mp hgroups, (pure_eq_ok.mp h).symm⟩
  · intro h
    obtain ⟨parameters, files, index, groups, hparameters, hloaded, hgroups, rfl⟩ := h
    refine bind_eq_ok.mpr ⟨parameters, hparameters, ?_⟩
    refine bind_eq_ok.mpr ⟨files, mapM_eq_ok.mpr hloaded.load, ?_⟩
    refine bind_eq_ok.mpr ⟨index, hloaded.build, ?_⟩
    exact bind_eq_ok.mpr ⟨groups, mapM_eq_ok.mpr hgroups, rfl⟩

theorem succeeds_generate_of_loaded {r : Descriptor.Request} {override : Option String}
    {parameters : Parameters} {files : List Schema.File} {index : TypeIndex}
    (hparameters : Parameters.parse (effectiveParameter r override) = .ok parameters)
    (h : Loaded r files index) :
    Succeeds (generate r override) ↔
      ∀ name ∈ r.filesToGenerate, Succeeds (outputsFor files index parameters name) := by
  unfold generate
  rw [hparameters, mapM_eq_ok.mpr h.load, ← succeeds_mapM]
  change Succeeds (TypeIndex.ofFiles files >>= _) ↔ _
  rw [h.build]
  exact succeeds_bind_of_total fun _ => succeeds_pure _

theorem loaded_of_succeeds_generate {r : Descriptor.Request} {override : Option String}
    (h : Succeeds (generate r override)) :
    ∃ parameters files index, Parameters.parse (effectiveParameter r override) = .ok parameters ∧
      Loaded r files index := by
  obtain ⟨response, h⟩ := h
  obtain ⟨parameters, files, index, -, hparameters, hl, -⟩ := generate_eq_ok.mp h
  exact ⟨parameters, files, index, hparameters, hl⟩

theorem pairTypes_iff {d : Descriptor.File} {file : Schema.File} (h : Schema.File.load d = .ok file) :
    (∀ m ∈ file.allMessages, Succeeds m.mapEntry) ↔
      ∀ p ∈ d.allMessages, p.2.isMapEntry = true →
        (∃ f ∈ p.2.fields, f.ownName = "key") ∧ ∃ f ∈ p.2.fields, f.ownName = "value" := by
  apply forall_results_iff (Schema.File.allMessages_results h)
  intro p m hm
  have hl := Schema.Message.loadedFrom hm
  have hnamed (name : String) :
      (∃ f ∈ m.fields, f.name = name) ↔ ∃ f ∈ p.2.fields, f.ownName = name := by
    have hall := forall_results_iff hl.fields (p := fun f => f.ownName ≠ name)
      (q := fun f => f.name ≠ name) fun x y hxy => by rw [(Schema.Field.loadedFrom hxy).name]
    simpa using not_congr hall
  rw [Schema.Message.succeeds_mapEntry, hl.isMapEntry, hnamed "key", hnamed "value"]

/-- For a request whose numbers are known and whose messages have distinct full names, a run gives an
answer exactly if the request is well formed. -/
theorem succeeds_generate_iff_wellFormed (r : Descriptor.Request) (override : Option String)
    (hnumbers : ∀ d ∈ r.files, d.KnownNumbers) (hnames : r.messageNames.Nodup) :
    (∃ response, generate r override = .ok response) ↔
      r.WellFormed (effectiveParameter r override) := by
  change Succeeds (generate r override) ↔ _
  constructor
  · intro h
    obtain ⟨parameters, files, index, hparameters, hl⟩ := loaded_of_succeeds_generate h
    have hfiles := (succeeds_generate_of_loaded hparameters hl).mp h
    simp only [hl.outputsFor_iff hnames] at hfiles
    have hpairs := TypeIndex.succeeds_ofFiles.mp ⟨index, hl.build⟩
    refine ⟨⟨parameters, hparameters⟩, ?_, ?_, ?_, ?_, ?_⟩
    · intro d hd
      obtain ⟨file, -, hload⟩ := exists_related hl.load hd
      exact (Schema.File.succeeds_load (hnumbers d hd)).mp ⟨file, hload⟩
    · exact (forall_results_iff hl.load fun d file hload => pairTypes_iff hload).mp hpairs
    · exact fun name hname => (hfiles name hname).1
    · exact fun name hname d hd => ((hfiles name hname).2 d hd).1
    · intro p hp hservice name hname d hd
      rw [hparameters] at hp
      cases hp
      exact ((hfiles name hname).2 d hd).2 hservice
  · intro h
    obtain ⟨parameters, hparameters⟩ := h.accepted
    obtain ⟨files, hfiles⟩ := succeeds_mapM.mpr fun d hd =>
      (Schema.File.succeeds_load (hnumbers d hd)).mpr (h.dialects d hd)
    have hload := mapM_eq_ok.mp hfiles
    obtain ⟨index, hindex⟩ := TypeIndex.succeeds_ofFiles.mpr
      ((forall_results_iff hload fun d file hd => pairTypes_iff hd).mpr h.pairTypes)
    have hl : Loaded r files index := ⟨hload, hindex⟩
    rw [succeeds_generate_of_loaded hparameters hl]
    intro name hname
    rw [hl.outputsFor_iff hnames]
    refine ⟨h.requested name hname, ?_⟩
    intro d hd
    exact ⟨h.fields name hname d hd, fun hs => h.methods parameters hparameters hs name hname d hd⟩

/-- A message with a map from texts to messages of its own kind, and a service that returns it. -/
def mapRequest : Descriptor.Request where
  filesToGenerate := ["m.proto"]
  parameter := some "service=grpc-web"
  files := [{
    name := some "m.proto"
    package := some "p"
    dialect := some "proto3"
    messages := [{
      name := some "M"
      fields := [
        { name := some "f", number := some 1, label := some 3, type := some 11,
          typeName := some ".p.M.FEntry" }]
      nested := [{
        name := some "FEntry"
        fields := [
          { name := some "key", number := some 1, type := some 9 },
          { name := some "value", number := some 2, type := some 11, typeName := some ".p.M" }]
        options := some { mapEntry := some true } }] }]
    services := [{
      name := some "S"
      methods := [{ name := some "Get", inputType := some "..p.M", outputType := some "p.M" }] }] }]

theorem mapRequest_wellFormed :
    (∀ d ∈ mapRequest.files, d.KnownNumbers) ∧ mapRequest.messageNames.Nodup ∧
      mapRequest.WellFormed "service=grpc-web" :=
  have hanswer : Succeeds (generate mapRequest none) := by decide
  ⟨by decide, by decide,
    (succeeds_generate_iff_wellFormed mapRequest none (by decide) (by decide)).mp hanswer⟩

end ProtoStubs
