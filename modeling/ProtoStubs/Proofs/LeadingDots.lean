import ProtoStubs.Generate
import ProtoStubs.Proofs.Loading

/-!
# Dots before a reference

The dots before the name of a type that a field or a method refers to mark it as fully qualified and are no
part of it. Files that differ in such dots only are loaded alike, faults included, so the requests that hold
them have the same answer.
-/

namespace ProtoStubs

namespace Descriptor

/-- Two references are the same after any dots before them; one that is left out is empty. -/
def SameReference (a b : Option String) : Prop :=
  ∃ (m n : Nat) (rest : List Char), (a.getD "").toList = List.replicate m '.' ++ rest ∧
    (b.getD "").toList = List.replicate n '.' ++ rest

/-- Two fields differ in the dots before the name of their type only. -/
structure Field.SameButDots (d d' : Field) : Prop where
  rest : d' = { d with typeName := d'.typeName }
  typeName : SameReference d.typeName d'.typeName

/-- Two messages differ in such dots only, at all depths. -/
inductive Message.SameButDots : Message → Message → Prop
  | intro {d d' : Message}
      (rest : d' = { d with fields := d'.fields, nested := d'.nested, extensions := d'.extensions })
      (fields : List.Forall₂ Field.SameButDots d.fields d'.fields)
      (nested : List.Forall₂ Message.SameButDots d.nested d'.nested)
      (extensions : List.Forall₂ Field.SameButDots d.extensions d'.extensions) :
      Message.SameButDots d d'

structure Method.SameButDots (d d' : Method) : Prop where
  rest : d' = { d with inputType := d'.inputType, outputType := d'.outputType }
  inputType : SameReference d.inputType d'.inputType
  outputType : SameReference d.outputType d'.outputType

structure Service.SameButDots (d d' : Service) : Prop where
  name : d'.name = d.name
  methods : List.Forall₂ Method.SameButDots d.methods d'.methods

structure File.SameButDots (d d' : File) : Prop where
  rest : d' =
    { d with messages := d'.messages, services := d'.services, extensions := d'.extensions }
  messages : List.Forall₂ Message.SameButDots d.messages d'.messages
  services : List.Forall₂ Service.SameButDots d.services d'.services
  extensions : List.Forall₂ Field.SameButDots d.extensions d'.extensions

structure Request.SameButDots (r r' : Request) : Prop where
  rest : r' = { r with files := r'.files }
  files : List.Forall₂ File.SameButDots r.files r'.files

theorem SameReference.bareTypeName {a b : Option String} (h : SameReference a b) :
    Schema.bareTypeName (b.getD "") = Schema.bareTypeName (a.getD "") := by
  obtain ⟨m, n, rest, ha, hb⟩ := h
  have hdots (k : Nat) :
      (List.replicate k '.' ++ rest).dropWhile (· == '.') = rest.dropWhile (· == '.') := by
    apply List.dropWhile_append_of_pos
    intro c hc
    exact beq_iff_eq.mpr (List.eq_of_mem_replicate hc)
  rw [Schema.bareTypeName, Schema.bareTypeName, ha, hb, hdots, hdots]

theorem Message.SameButDots.name {d d' : Message} (h : d.SameButDots d') : d'.name = d.name := by
  cases h with
  | intro rest => rw [rest]

theorem Message.SameButDots.isMapEntry {d d' : Message} (h : d.SameButDots d') :
    d'.isMapEntry = d.isMapEntry := by
  cases h with
  | intro rest => rw [rest]; rfl

end Descriptor

namespace Schema

open Descriptor

theorem Field.load_sameButDots (mapEntries : List String) {d d' : Descriptor.Field}
    (h : d.SameButDots d') : Field.load mapEntries d' = Field.load mapEntries d := by
  have hname := h.typeName.bareTypeName
  rw [h.rest, Field.load, Field.load]
  simp only [hname]

theorem mapEntryNames_sameButDots (scope : String) {ds ds' : List Descriptor.Message}
    (h : List.Forall₂ Descriptor.Message.SameButDots ds ds') :
    mapEntryNames scope ds' = mapEntryNames scope ds := by
  induction h with
  | nil => rfl
  | cons hd _ ih =>
    unfold mapEntryNames at ih ⊢
    rw [List.filter_cons, List.filter_cons, hd.isMapEntry]
    split
    · rw [List.map_cons, List.map_cons, ih, hd.name]
    · exact ih

theorem Message.load_sameButDots (d : Descriptor.Message) (scope : String) {d' : Descriptor.Message}
    (h : d.SameButDots d') : Message.load scope d' = Message.load scope d := by
  induction d using Descriptor.Message.induct generalizing scope d' with
  | step d ih =>
    cases h with
    | intro rest fields nested extensions =>
      have hname : d'.fullName scope = d.fullName scope := by rw [rest]; rfl
      have hfields : d'.fields.mapM (Field.load (mapEntryNames (d'.fullName scope) d'.nested)) =
          d.fields.mapM (Field.load (mapEntryNames (d.fullName scope) d.nested)) := by
        rw [hname, mapEntryNames_sameButDots _ nested]
        exact mapM_related fields fun _ _ _ hx => Field.load_sameButDots _ hx
      have hnested : d'.nested.mapM (Message.load (d'.fullName scope)) =
          d.nested.mapM (Message.load (d.fullName scope)) := by
        rw [hname]
        exact mapM_related nested fun n hn _ hx => ih n hn _ hx
      have hextensions : d'.extensions.mapM (Field.load []) = d.extensions.mapM (Field.load []) :=
        mapM_related extensions fun _ _ _ hx => Field.load_sameButDots [] hx
      rw [Message.load_eq, Message.load_eq, hfields, hnested, hextensions, hname, rest]
      rfl

theorem Service.load_sameButDots (pkg : String) {d d' : Descriptor.Service}
    (h : d.SameButDots d') : Service.load pkg d' = Service.load pkg d := by
  have hmethods : d'.methods.map Method.load = d.methods.map Method.load := by
    apply map_related h.methods
    intro x _ y hxy
    rw [hxy.rest, Method.load, Method.load, hxy.inputType.bareTypeName, hxy.outputType.bareTypeName]
  rw [Service.load, Service.load, h.name, hmethods]

theorem File.load_sameButDots {d d' : Descriptor.File} (h : d.SameButDots d') :
    File.load d' = File.load d := by
  have hpackage : d'.package = d.package := by rw [h.rest]
  have hmessages : loadMessages (d'.package.getD "") d'.messages =
      loadMessages (d.package.getD "") d.messages := by
    rw [hpackage, loadMessages_eq_mapM, loadMessages_eq_mapM]
    exact mapM_related h.messages fun m _ _ hm => Message.load_sameButDots m _ hm
  have hservices : d'.services.map (Service.load (d'.package.getD "")) =
      d.services.map (Service.load (d.package.getD "")) := by
    rw [hpackage]
    exact map_related h.services fun _ _ _ hs => Service.load_sameButDots _ hs
  have hextensions : d'.extensions.mapM (Field.load []) = d.extensions.mapM (Field.load []) :=
    mapM_related h.extensions fun _ _ _ hx => Field.load_sameButDots [] hx
  rw [File.load, File.load, hmessages, hservices, hextensions, h.rest]

theorem loadAll_sameButDots {r r' : Descriptor.Request} (h : r.SameButDots r') :
    r'.files.mapM File.load = r.files.mapM File.load :=
  mapM_related h.files fun _ _ _ hf => File.load_sameButDots hf

end Schema

/-- Requests that differ in dots before references only have the same answer and the same notices. -/
theorem generate_sameButDots {r r' : Descriptor.Request} (override : Option String)
    (h : r.SameButDots r') :
    generate r' override = generate r override ∧
      generationNotices r' override = generationNotices r override := by
  have hparameter : r'.parameter = r.parameter := by rw [h.rest]
  have hnames : r'.filesToGenerate = r.filesToGenerate := by rw [h.rest]
  constructor
  · rw [generate, generate, Generate.effectiveParameter, Generate.effectiveParameter, hparameter,
      hnames, Schema.loadAll_sameButDots h]
  · rw [generationNotices, generationNotices, Generate.effectiveParameter,
      Generate.effectiveParameter, hparameter]

end ProtoStubs
