import ProtoStubs.Proofs.BracketedDeclaration
import ProtoStubs.Proofs.BracketedStubs
import ProtoStubs.Proofs.Identity
import ProtoStubs.Proofs.SameClient

/-!
# Generated text is well bracketed

Where paths, packages and names have the characters that the schema language gives them, every file of an
answer closes its brackets in the order in which it opens them, and none is left open.
-/

namespace ProtoStubs

open Text (IsName IsPath IsPackage WellBracketed)

namespace Descriptor

structure Enum.Named (d : Enum) : Prop where
  name : IsName (d.name.getD "")
  values : ∀ v ∈ d.values, IsName (v.name.getD "")

structure Message.Named (d : Message) : Prop where
  name : IsName (d.name.getD "")
  fields : ∀ f ∈ d.fields, IsName (f.name.getD "")
  enums : ∀ e ∈ d.enums, e.Named
  oneofs : ∀ o ∈ d.oneofs, IsName (o.name.getD "")
  extensions : ∀ x ∈ d.extensions, IsName (x.name.getD "")

structure Service.Named (d : Service) : Prop where
  name : IsName (d.name.getD "")
  methods : ∀ m ∈ d.methods, IsName (m.name.getD "")

/-- The file and its dependencies have paths, its package is dotted, and all other names, at every depth, are
identifiers. -/
structure File.Named (d : File) : Prop where
  name : IsPath (d.name.getD "")
  dependencies : ∀ g ∈ d.dependencies, IsPath g
  package : IsPackage (d.package.getD "")
  messages : ∀ p ∈ d.allMessages, p.2.Named
  enums : ∀ e ∈ d.enums, e.Named
  services : ∀ s ∈ d.services, s.Named
  extensions : ∀ x ∈ d.extensions, IsName (x.name.getD "")

instance (d : Enum) : Decidable d.Named :=
  decidable_of_iff (IsName (d.name.getD "") ∧ ∀ v ∈ d.values, IsName (v.name.getD ""))
    ⟨fun h => ⟨h.1, h.2⟩, fun h => ⟨h.name, h.values⟩⟩

instance (d : Message) : Decidable d.Named :=
  decidable_of_iff (IsName (d.name.getD "") ∧ (∀ f ∈ d.fields, IsName (f.name.getD "")) ∧
      (∀ e ∈ d.enums, e.Named) ∧ (∀ o ∈ d.oneofs, IsName (o.name.getD "")) ∧
      ∀ x ∈ d.extensions, IsName (x.name.getD ""))
    ⟨fun h => ⟨h.1, h.2.1, h.2.2.1, h.2.2.2.1, h.2.2.2.2⟩,
      fun h => ⟨h.name, h.fields, h.enums, h.oneofs, h.extensions⟩⟩

instance (d : Service) : Decidable d.Named :=
  decidable_of_iff (IsName (d.name.getD "") ∧ ∀ m ∈ d.methods, IsName (m.name.getD ""))
    ⟨fun h => ⟨h.1, h.2⟩, fun h => ⟨h.name, h.methods⟩⟩

instance (d : File) : Decidable d.Named :=
  decidable_of_iff (IsPath (d.name.getD "") ∧ (∀ g ∈ d.dependencies, IsPath g) ∧
      IsPackage (d.package.getD "") ∧ (∀ p ∈ d.allMessages, p.2.Named) ∧ (∀ e ∈ d.enums, e.Named) ∧
      (∀ s ∈ d.services, s.Named) ∧ ∀ x ∈ d.extensions, IsName (x.name.getD ""))
    ⟨fun h => ⟨h.1, h.2.1, h.2.2.1, h.2.2.2.1, h.2.2.2.2.1, h.2.2.2.2.2.1, h.2.2.2.2.2.2⟩,
      fun h => ⟨h.name, h.dependencies, h.package, h.messages, h.enums, h.services, h.extensions⟩⟩

end Descriptor

namespace Schema

theorem Enum.Mirrors.named {d : Descriptor.Enum} {e : Enum} (h : e.Mirrors d) (hd : d.Named) : e.Named where
  name := h.name ▸ hd.name
  values := forall_related h.values (fun _ _ hv hname => hv.name ▸ hname) hd.values

theorem Message.Mirrors.named {d : Descriptor.Message} {m : Message} (h : Message.Mirrors d m)
    (hd : d.Named) : m.Named := by
  cases h with
  | intro name fields nested enums oneofs extensions =>
    exact {
      name := name ▸ hd.name
      fields := forall_related fields (fun _ _ hf hname => hf.name ▸ hname) hd.fields
      enums := forall_related enums (fun _ _ he hnames => he.named hnames) hd.enums
      oneofs := forall_related oneofs (fun _ _ ho hname => ho ▸ hname) hd.oneofs
      extensions := forall_related extensions (fun _ _ hx hname => hx.name ▸ hname) hd.extensions }

theorem Service.Mirrors.named {d : Descriptor.Service} {s : Service} (h : s.Mirrors d) (hd : d.Named) :
    s.Named where
  name := h.name ▸ hd.name
  methods := forall_related h.methods (fun _ _ hm hname => hm ▸ hname) hd.methods

theorem File.named_of_load {d : Descriptor.File} {f : File} (h : File.load d = .ok f) (hd : d.Named) :
    f.Named ∧ ∀ s ∈ f.services, s.Named := by
  have hmirrors := File.mirrors_of_load h
  refine ⟨?_, forall_related hmirrors.services (fun _ _ hs hnames => hs.named hnames) hd.services⟩
  exact {
    name := hmirrors.name ▸ hd.name
    dependencies := hmirrors.dependencies ▸ hd.dependencies
    package := hmirrors.package ▸ hd.package
    messages := forall_related (File.allMessages_results h)
      (fun p _ hm hnames => (Message.mirrors_of_load p.2 p.1 hm).named hnames) hd.messages
    enums := forall_related hmirrors.enums (fun _ _ he hnames => he.named hnames) hd.enums
    extensions := forall_related hmirrors.extensions (fun _ _ hx hname => hx.name ▸ hname) hd.extensions }

end Schema

namespace Service

theorem File.tokens_of_link {index : TypeIndex}
    (hexports : ∀ e ∈ index.exports, Text.Dotted e.fullName ∧ IsPath e.fileName) {d : Descriptor.File}
    {f : Schema.File} {s : File} (hload : Schema.File.load d = .ok f) (htypes : f.TypesNamed)
    (hservices : ∀ x ∈ f.services, x.Named) (h : File.link index f = .ok s) : s.Tokens := by
  have hnamed := File.named_of_link hexports hload htypes hservices h
  obtain ⟨hname, hpackage, -⟩ := File.imports_of_link h
  refine ⟨?_, ?_, ?_, hnamed.imports⟩
  · rw [hname]
    exact SourcePath.tokenChars_of_isPath htypes.name
  · rw [hpackage]
    exact htypes.package.dotted.tokenChars
  · intro stub hstub
    refine ⟨hnamed.services stub hstub, ?_⟩
    obtain ⟨stubs, hstubs, h⟩ := bind_eq_ok.mp h
    cases pure_eq_ok.mp h
    obtain ⟨x, hx, hlink⟩ := (mem_results (mapM_eq_ok.mp hstubs)).mp hstub
    rw [(Stub.source_of_link hlink).2.1, Schema.File.fullName_of_service hload hx]
    exact (Schema.dotted_qualify htypes.package.dotted (hservices x hx).name.dotted).tokenChars

end Service

section Outputs

variable {ds : List Descriptor.File} {files : List Schema.File} {index : TypeIndex}
  {parameters : Parameters} {f : Schema.File}

theorem Service.wellBracketed_files (hload : ds.mapM Schema.File.load = .ok files)
    (hindex : TypeIndex.ofFiles files = .ok index)
    (hnames : ∀ g ∈ files, g.Named ∧ ∀ s ∈ g.services, s.Named) (hf : f ∈ files)
    {outputs : List OutputFile} (h : Service.files index parameters f = .ok outputs) :
    ∀ o ∈ outputs, WellBracketed o.content := by
  have hexports := TypeIndex.named_exports hload hindex fun g hg => (hnames g hg).1.typesNamed
  obtain ⟨d, -, hdf⟩ := (mem_results (mapM_eq_ok.mp hload)).mp hf
  unfold Service.files at h
  split at h
  · cases h
    simp
  · obtain ⟨s, hlink, h⟩ := bind_eq_ok.mp h
    cases pure_eq_ok.mp h
    exact s.wellBracketed_outputs parameters
      (Service.File.tokens_of_link hexports hdf (hnames f hf).1.typesNamed (hnames f hf).2 hlink)

theorem wellBracketed_outputs (hload : ds.mapM Schema.File.load = .ok files)
    (hindex : TypeIndex.ofFiles files = .ok index)
    (hnames : ∀ g ∈ files, g.Named ∧ ∀ s ∈ g.services, s.Named) (hf : f ∈ files)
    {outputs : List OutputFile} (h : Generate.outputs index parameters f = .ok outputs) :
    ∀ o ∈ outputs, WellBracketed o.content := by
  obtain ⟨t, ht, h⟩ := bind_eq_ok.mp h
  obtain ⟨stubs, hstubs, h⟩ := bind_eq_ok.mp h
  cases pure_eq_ok.mp h
  rw [List.forall_mem_cons]
  exact ⟨Declaration.wellBracketed_of_text hload hindex (fun g hg => (hnames g hg).1) hf ht,
    Service.wellBracketed_files hload hindex hnames hf hstubs⟩

end Outputs

/-- Every file of an answer is well bracketed. -/
theorem generate_wellBracketed {r : Descriptor.Request} {override : Option String} {response : Response}
    (hnames : ∀ d ∈ r.files, d.Named) (h : generate r override = .ok response) :
    ∀ o ∈ response.files, WellBracketed o.content := by
  obtain ⟨parameters, files, index, groups, -, hloaded, hgroups, rfl⟩ := generate_eq_ok.mp h
  have hfiles : ∀ g ∈ files, g.Named ∧ ∀ s ∈ g.services, s.Named :=
    forall_related hloaded.load (fun _ _ hload hd => Schema.File.named_of_load hload hd) hnames
  intro o ho
  obtain ⟨group, hgroup, ho⟩ := List.mem_flatten.mp ho
  obtain ⟨name, -, houtputs⟩ := (mem_results hgroups).mp hgroup
  obtain ⟨f, hf, houtputs⟩ := bind_eq_ok.mp houtputs
  have hmem : f ∈ files := (List.mem_filter.mp (List.mem_of_getLast? (require_eq_ok.mp hf))).1
  exact wellBracketed_outputs (mapM_eq_ok.mpr hloaded.load) hloaded.build hfiles hmem houtputs o ho

/-- A service with a call of each shape, and a message with a map, a message and an enumeration in it. -/
def bracketRequest : Descriptor.Request where
  filesToGenerate := ["a/talk.proto", "n.proto"]
  parameter := some "service=grpc-web"
  files := [Service.talkDescriptor, answerFile, Declaration.nestedDescriptor]

theorem bracketRequest_wellBracketed : (∀ d ∈ bracketRequest.files, d.Named) ∧
    ∃ response, generate bracketRequest none = .ok response ∧
      response.files.map (·.name) =
        ["a/talk_pb.d.ts", "a/talk_pb_service.d.ts", "a/talk_pb_service.js", "n_pb.d.ts"] ∧
      ∀ o ∈ response.files, WellBracketed o.content := by
  have hnames : ∀ d ∈ bracketRequest.files, d.Named := by decide
  have hfiles : (generate bracketRequest none).toOption.map (fun response => response.files.map (·.name)) =
      some ["a/talk_pb.d.ts", "a/talk_pb_service.d.ts", "a/talk_pb_service.js", "n_pb.d.ts"] := by decide
  cases hresponse : generate bracketRequest none with
  | error e =>
    rw [hresponse] at hfiles
    cases hfiles
  | ok response =>
    rw [hresponse] at hfiles
    exact ⟨hnames, response, rfl, Option.some.inj hfiles, generate_wellBracketed hnames hresponse⟩

end ProtoStubs
