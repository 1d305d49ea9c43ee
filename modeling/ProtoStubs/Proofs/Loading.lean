import ProtoStubs.Proofs.Nesting
import ProtoStubs.Proofs.Success

/-!
# What loading keeps

A loaded message has the fields, nested messages and extensions of its descriptor in their order. Loading
fails only at a number without a meaning, or at a dialect without one.
-/

namespace ProtoStubs.Descriptor

def Field.ownName (d : Field) : String := d.name.getD ""

def Field.typeNumber (d : Field) : Int := d.type.getD 1

def Field.labelNumber (d : Field) : Int := d.label.getD 1

def Field.target (d : Field) : String := Schema.bareTypeName (d.typeName.getD "")

/-- The numbers are those that a descriptor can hold. -/
def Field.KnownNumbers (d : Field) : Prop :=
  (1 ≤ d.typeNumber ∧ d.typeNumber ≤ 18) ∧ (1 ≤ d.labelNumber ∧ d.labelNumber ≤ 3)

instance (d : Field) : Decidable d.KnownNumbers :=
  inferInstanceAs (Decidable ((_ ∧ _) ∧ (_ ∧ _)))

def File.ownName (d : File) : String := d.name.getD ""

def File.ownPackage (d : File) : String := d.package.getD ""

/-- Every message of the file, each with the full name of what it stands in. -/
def File.allMessages (d : File) : List (String × Message) := allNested d.ownPackage d.messages

def File.messageNames (d : File) : List String := d.allMessages.map fun p => p.2.fullName p.1

def Enum.fullName (scope : String) (d : Enum) : String := Schema.qualify scope (d.name.getD "")

def File.enumNames (d : File) : List String :=
  (d.allMessages.flatMap fun p => p.2.enums.map (Enum.fullName (p.2.fullName p.1))) ++
    d.enums.map (Enum.fullName d.ownPackage)

def File.KnownNumbers (d : File) : Prop :=
  (∀ p ∈ d.allMessages, (∀ f ∈ p.2.fields, f.KnownNumbers) ∧ ∀ f ∈ p.2.extensions, f.KnownNumbers) ∧
    ∀ f ∈ d.extensions, f.KnownNumbers

instance (d : File) : Decidable d.KnownNumbers := inferInstanceAs (Decidable (_ ∧ _))

/-- The dialects that can be read; no name stands for the older one. -/
def File.KnownDialect (d : File) : Prop :=
  d.dialect.getD "" = "" ∨ d.dialect.getD "" = "proto2" ∨ d.dialect.getD "" = "proto3"

end ProtoStubs.Descriptor

namespace ProtoStubs.Schema

theorem FieldType.exists_ofNumber? {n : Int} (h : 1 ≤ n ∧ n ≤ 18) :
    ∃ t, FieldType.ofNumber? n = some t := by
  have hlen : (n - 1).toNat < FieldType.all.length := by
    change (n - 1).toNat < 18
    omega
  refine ⟨FieldType.all[(n - 1).toNat], ?_⟩
  rw [FieldType.ofNumber?, if_neg (by omega), List.getElem?_eq_getElem hlen]

theorem FieldType.ofNumber?_eq_some {n : Int} {t : FieldType} (h : FieldType.ofNumber? n = some t) :
    ∃ i : Fin FieldType.all.length, n = i.val + 1 ∧ FieldType.all[i] = t := by
  unfold FieldType.ofNumber? at h
  split at h
  · cases h
  · obtain ⟨hi, ht⟩ := List.getElem?_eq_some_iff.mp h
    exact ⟨⟨(n - 1).toNat, hi⟩, by simp only; omega, ht⟩

theorem FieldType.isMessage_ofNumber? {n : Int} {t : FieldType}
    (h : FieldType.ofNumber? n = some t) : t.isMessage = true ↔ n = 10 ∨ n = 11 := by
  obtain ⟨i, rfl, rfl⟩ := FieldType.ofNumber?_eq_some h
  revert i
  decide

theorem FieldType.eq_enum_ofNumber? {n : Int} {t : FieldType}
    (h : FieldType.ofNumber? n = some t) : t = .enum ↔ n = 14 := by
  obtain ⟨i, rfl, rfl⟩ := FieldType.ofNumber?_eq_some h
  revert i
  decide

theorem Label.exists_ofNumber? {n : Int} (h : 1 ≤ n ∧ n ≤ 3) : ∃ l, Label.ofNumber? n = some l := by
  obtain rfl | rfl | rfl : n = 1 ∨ n = 2 ∨ n = 3 := by omega
  · exact ⟨.optional, rfl⟩
  · exact ⟨.required, rfl⟩
  · exact ⟨.repeated, rfl⟩

theorem Label.eq_repeated_ofNumber? {n : Int} {l : Label} (h : Label.ofNumber? n = some l) :
    l = .repeated ↔ n = 3 := by
  unfold Label.ofNumber? at h
  split at h <;> cases h <;> decide

structure Field.LoadedFrom (mapEntries : List String) (d : Descriptor.Field) (f : Field) : Prop where
  name : f.name = d.ownName
  type : FieldType.ofNumber? d.typeNumber = some f.type
  label : Label.ofNumber? d.labelNumber = some f.label
  typeName : f.typeName = d.target
  isMap : f.isMap = (f.label == .repeated && decide (f.typeName ∈ mapEntries))

theorem Field.loadedFrom {mapEntries : List String} {d : Descriptor.Field} {f : Field}
    (h : Field.load mapEntries d = .ok f) : f.LoadedFrom mapEntries d := by
  obtain ⟨type, htype, h⟩ := bind_eq_ok.mp h
  obtain ⟨label, hlabel, h⟩ := bind_eq_ok.mp h
  cases pure_eq_ok.mp h
  exact ⟨rfl, require_eq_ok.mp htype, require_eq_ok.mp hlabel, rfl, rfl⟩

theorem Field.succeeds_load (mapEntries : List String) {d : Descriptor.Field}
    (h : d.KnownNumbers) : Succeeds (Field.load mapEntries d) := by
  obtain ⟨type, htype⟩ := FieldType.exists_ofNumber? h.1
  obtain ⟨label, hlabel⟩ := Label.exists_ofNumber? h.2
  rw [Field.load, succeeds_bind]
  refine ⟨type, require_eq_ok.mpr htype, ?_⟩
  rw [succeeds_bind]
  exact ⟨label, require_eq_ok.mpr hlabel, succeeds_pure _⟩

/-- A field is a map exactly if it is repeated and names a pair type of its own message. -/
theorem Field.LoadedFrom.isMap_iff {mapEntries : List String} {d : Descriptor.Field} {f : Field}
    (h : f.LoadedFrom mapEntries d) :
    f.isMap = true ↔ d.labelNumber = 3 ∧ d.target ∈ mapEntries := by
  rw [h.isMap, h.typeName, Bool.and_eq_true, decide_eq_true_iff, beq_iff_eq,
    Label.eq_repeated_ofNumber? h.label]

theorem Message.load_eq (scope : String) (d : Descriptor.Message) :
    Message.load scope d = do
      let fields ← d.fields.mapM (Field.load (mapEntryNames (d.fullName scope) d.nested))
      let nested ← d.nested.mapM (Message.load (d.fullName scope))
      let extensions ← d.extensions.mapM (Field.load [])
      return {
        name := d.ownName
        fullName := d.fullName scope
        fields
        nested
        enums := d.enums.map (Enum.load (d.fullName scope))
        oneofs := d.oneofs.map (·.name.getD "")
        extensions
        isMapEntry := d.isMapEntry } := by
  cases d
  simp only [Message.load, loadMessages_eq_mapM]
  rfl

structure Message.LoadedFrom (scope : String) (d : Descriptor.Message) (m : Message) : Prop where
  name : m.name = d.ownName
  fullName : m.fullName = d.fullName scope
  fields : List.Forall₂ (fun x y => Field.load (mapEntryNames (d.fullName scope) d.nested) x = .ok y)
    d.fields m.fields
  nested : List.Forall₂ (fun x y => Message.load (d.fullName scope) x = .ok y) d.nested m.nested
  enums : m.enums = d.enums.map (Enum.load (d.fullName scope))
  extensions : List.Forall₂ (fun x y => Field.load [] x = .ok y) d.extensions m.extensions
  isMapEntry : m.isMapEntry = d.isMapEntry

theorem Message.loadedFrom {scope : String} {d : Descriptor.Message} {m : Message}
    (h : Message.load scope d = .ok m) : m.LoadedFrom scope d := by
  rw [Message.load_eq] at h
  obtain ⟨fields, hfields, h⟩ := bind_eq_ok.mp h
  obtain ⟨nested, hnested, h⟩ := bind_eq_ok.mp h
  obtain ⟨extensions, hextensions, h⟩ := bind_eq_ok.mp h
  cases pure_eq_ok.mp h
  exact ⟨rfl, rfl, mapM_eq_ok.mp hfields, mapM_eq_ok.mp hnested, rfl, mapM_eq_ok.mp hextensions, rfl⟩

theorem Message.succeeds_load (d : Descriptor.Message) (scope : String)
    (h : ∀ p ∈ d.withNested scope,
      (∀ f ∈ p.2.fields, f.KnownNumbers) ∧ ∀ f ∈ p.2.extensions, f.KnownNumbers) :
    Succeeds (Message.load scope d) := by
  induction d using Descriptor.Message.induct generalizing scope with
  | step d ih =>
    have hown := h _ (d.mem_withNested_self scope)
    obtain ⟨fields, hfields⟩ := succeeds_mapM.mpr fun f hf =>
      Field.succeeds_load (mapEntryNames (d.fullName scope) d.nested) (hown.1 f hf)
    obtain ⟨nested, hnested⟩ := succeeds_mapM.mpr fun n hn =>
      ih n hn (d.fullName scope) fun p hp => h p (Descriptor.Message.withNested_subset hn hp)
    obtain ⟨extensions, hextensions⟩ := succeeds_mapM.mpr fun f hf =>
      Field.succeeds_load [] (hown.2 f hf)
    rw [Message.load_eq]
    exact ⟨_, by rw [hfields, hnested, hextensions]; rfl⟩

/-- The messages below a loaded message are those below its descriptor, each loaded in its scope. -/
theorem Message.withNested_results (d : Descriptor.Message) (scope : String) {m : Message}
    (h : Message.load scope d = .ok m) :
    List.Forall₂ (fun p n => Message.load p.1 p.2 = .ok n) (d.withNested scope) m.withNested := by
  induction d using Descriptor.Message.induct generalizing scope m with
  | step d ih =>
    rw [Descriptor.Message.withNested_eq, Message.withNested_eq]
    refine .cons h ?_
    have hnested := (Message.loadedFrom h).nested
    generalize m.nested = ns at hnested
    generalize d.nested = ds at hnested ih
    induction hnested with
    | nil => exact .nil
    | cons hab _ ih' =>
      rw [List.flatMap_cons, List.flatMap_cons]
      apply List.rel_append
      · exact ih _ List.mem_cons_self _ hab
      · exact ih' fun n hn => ih n (List.mem_cons_of_mem _ hn)

theorem Dialect.succeeds_load {file name : String} :
    Succeeds (Dialect.load file name) ↔ name = "" ∨ name = "proto2" ∨ name = "proto3" := by
  unfold Dialect.load
  by_cases hname : name = ""
  · simp [hname, succeeds_ok]
  · rw [if_neg hname, succeeds_require]
    unfold Dialect.ofName?
    split <;> simp_all

theorem File.succeeds_load {d : Descriptor.File} (h : d.KnownNumbers) :
    Succeeds (File.load d) ↔ d.KnownDialect := by
  obtain ⟨messages, hmessages⟩ : Succeeds (loadMessages d.ownPackage d.messages) := by
    rw [loadMessages_eq_mapM, succeeds_mapM]
    intro m hm
    apply Message.succeeds_load
    intro p hp
    apply h.1
    rw [Descriptor.File.allMessages, Descriptor.allNested_eq_flatMap]
    exact List.mem_flatMap.mpr ⟨m, hm, hp⟩
  obtain ⟨extensions, hextensions⟩ := succeeds_mapM.mpr fun f hf => Field.succeeds_load [] (h.2 f hf)
  have hdialect : Succeeds (File.load d) ↔
      Succeeds (Dialect.load d.ownName (d.dialect.getD "")) := by
    apply succeeds_bind_of_total
    intro dialect
    change Succeeds (loadMessages d.ownPackage d.messages >>= _)
    rw [hmessages]
    refine succeeds_bind.mpr ⟨messages, rfl, ?_⟩
    rw [hextensions]
    exact succeeds_bind.mpr ⟨extensions, rfl, succeeds_pure _⟩
  rw [hdialect, Dialect.succeeds_load, Descriptor.File.KnownDialect]

structure File.LoadedFrom (d : Descriptor.File) (f : File) : Prop where
  name : f.name = d.ownName
  package : f.package = d.ownPackage
  messages : List.Forall₂ (fun x y => Message.load d.ownPackage x = .ok y) d.messages f.messages
  enums : f.enums = d.enums.map (Enum.load d.ownPackage)
  services : f.services = d.services.map (Service.load d.ownPackage)
  extensions : List.Forall₂ (fun x y => Field.load [] x = .ok y) d.extensions f.extensions

theorem File.loadedFrom {d : Descriptor.File} {f : File} (h : File.load d = .ok f) :
    f.LoadedFrom d := by
  obtain ⟨dialect, -, h⟩ := bind_eq_ok.mp h
  obtain ⟨messages, hmessages, h⟩ := bind_eq_ok.mp h
  obtain ⟨extensions, hextensions, h⟩ := bind_eq_ok.mp h
  cases pure_eq_ok.mp h
  rw [loadMessages_eq_mapM] at hmessages
  exact ⟨rfl, rfl, mapM_eq_ok.mp hmessages, rfl, rfl, mapM_eq_ok.mp hextensions⟩

theorem File.allMessages_results {d : Descriptor.File} {f : File} (h : File.load d = .ok f) :
    List.Forall₂ (fun p n => Message.load p.1 p.2 = .ok n) d.allMessages f.allMessages := by
  have hmessages := (File.loadedFrom h).messages
  rw [File.allMessages, allNested_eq_flatMap, Descriptor.File.allMessages,
    Descriptor.allNested_eq_flatMap]
  generalize f.messages = ns at hmessages
  generalize d.messages = ds at hmessages
  induction hmessages with
  | nil => exact .nil
  | cons hab _ ih =>
    rw [List.flatMap_cons, List.flatMap_cons]
    exact List.rel_append (Message.withNested_results _ _ hab) ih

theorem File.messageNames_eq {d : Descriptor.File} {f : File} (h : File.load d = .ok f) :
    f.allMessages.map (·.fullName) = d.messageNames :=
  map_related (File.allMessages_results h) fun _ _ _ hm => (Message.loadedFrom hm).fullName

def File.orderedEnums (f : File) : List Enum := f.allMessages.flatMap (·.enums) ++ f.enums

theorem File.mem_orderedEnums {f : File} {x : Enum} : x ∈ f.orderedEnums ↔ x ∈ f.allEnums := by
  rw [File.mem_allEnums, orderedEnums, List.mem_append, List.mem_flatMap]

theorem File.enumNames_eq {d : Descriptor.File} {f : File} (h : File.load d = .ok f) :
    f.orderedEnums.map (·.fullName) = d.enumNames := by
  have hmessages : (f.allMessages.flatMap (·.enums)).map (·.fullName) =
      d.allMessages.flatMap fun p =>
        p.2.enums.map (Descriptor.Enum.fullName (p.2.fullName p.1)) := by
    rw [List.map_flatMap]
    apply flatMap_related (File.allMessages_results h)
    intro p _ m hm
    rw [(Message.loadedFrom hm).enums, List.map_map]
    rfl
  rw [orderedEnums, List.map_append, hmessages, (File.loadedFrom h).enums, List.map_map]
  rfl

theorem File.mem_enumNames {d : Descriptor.File} {f : File} (h : File.load d = .ok f)
    {name : String} : name ∈ d.enumNames ↔ ∃ x ∈ f.allEnums, x.fullName = name := by
  rw [← File.enumNames_eq h, List.mem_map]
  simp only [File.mem_orderedEnums]

end ProtoStubs.Schema
