import ProtoStubs.Proofs.ReadNode
import ProtoStubs.Proofs.WellBracketed

/-!
# A method in the four places of a node declaration

A method shows as a member of its service's definition, in a definition of its own, as a function of the server
and as a call of the client. The four places list the methods of a service in the order of the schema, and what
they say of a method is what the schema says of it.
-/

namespace ProtoStubs.Service

namespace Node

structure Views where
  member : String × String
  definition : MethodDefinition
  handler : Handler
  calls : List Signature
  deriving DecidableEq

def overloadCount : Schema.CallShape → Nat
  | .unary => 3
  | .serverStreaming => 2
  | .clientStreaming => 3
  | .bidiStreaming => 2

/-- What is shown of a method of a service, with the names of its types. -/
structure Views.Describes (package service : String) (m : Schema.Method) (request response : String)
    (v : Views) : Prop where
  member : v.member = (Text.lowerFirst m.name, "I" ++ service ++ "Service_I" ++ m.name)
  definition : v.definition = {
    name := "I" ++ service ++ "Service_I" ++ m.name
    request, response
    path := "/" ++ Schema.qualify package service ++ "/" ++ m.name
    requestStream := if m.clientStreaming then "true" else "false"
    responseStream := if m.serverStreaming then "true" else "false"
    requestSerialize := request
    requestDeserialize := request
    responseSerialize := response
    responseDeserialize := response }
  handler : v.handler = ⟨Text.lowerFirst m.name, handlerType m.shape, request, response⟩
  calls : v.calls = signatures m request response
  count : v.calls.length = overloadCount m.shape

/-- The types are those that the index has for the method. -/
def Views.Of (index : TypeIndex) (package service : String) (m : Schema.Method) (v : Views) : Prop :=
  ∃ request response, index.find? .message m.inputType = some request ∧
    index.find? .message m.outputType = some response ∧
    v.Describes package service m request.namespacedName response.namespacedName

/-- The four places of a service have the same methods, each of them once. -/
structure DeclaredService.Shows (index : TypeIndex) (package : String) (s : Schema.Service) (vs : List Views)
    (d : DeclaredService) : Prop where
  views : List.Forall₂ (Views.Of index package s.name) s.methods vs
  name : d.name = "I" ++ s.name ++ "Service"
  members : d.members = vs.map (·.member)
  methods : d.methods = vs.map (·.definition)
  constants : d.constants = [(s.name ++ "Service", "I" ++ s.name ++ "Service")]
  server : d.servers = [("I" ++ s.name ++ "Server", vs.map (·.handler))]
  client : d.clients.map (fun c => (c.name, calls c.signatures)) = [(s.name ++ "Client", vs.map (·.calls))]
  distinct : (vs.map (·.member.1)).Nodup ∧ (vs.map (·.definition.name)).Nodup ∧
    (vs.map (·.handler.name)).Nodup ∧ (vs.map fun v => v.calls.map (·.name)).Nodup

def viewsOf (s : Stub) (m : Method) : Views where
  member := (m.clientName, methodDefinitionName s m)
  definition := definitionOf s m
  handler := handlerOf m
  calls := signaturesOf m

theorem methodDefinitionName_eq (s : Stub) (m : Method) :
    methodDefinitionName s m = "I" ++ s.name ++ "Service_I" ++ m.name := by
  have htail : "Service_I" = "Service" ++ "_I" := rfl
  rw [methodDefinitionName, definitionName, htail]
  simp only [String.append_assoc]

theorem Views.Of.describes {index : TypeIndex} {package service : String} {m : Schema.Method} {v : Views}
    (h : Views.Of index package service m v) :
    ∃ request response, v.Describes package service m request response := by
  obtain ⟨request, response, -, -, h⟩ := h
  exact ⟨_, _, h⟩

theorem length_signatures (m : Schema.Method) (request response : String) :
    (signatures m request response).length = overloadCount m.shape := by
  rw [signatures, List.length_map, Schema.Method.shape]
  cases m.clientStreaming <;> cases m.serverStreaming <;> rfl

theorem methodDefinitionName_inj {s : Stub} {m n : Method}
    (h : methodDefinitionName s m = methodDefinitionName s n) : m.name = n.name := by
  simpa [methodDefinitionName] using h

theorem distinct_views {s : Stub} (h : (s.methods.map Method.clientName).Nodup) :
    ((s.methods.map (viewsOf s)).map (·.member.1)).Nodup ∧
    ((s.methods.map (viewsOf s)).map (·.definition.name)).Nodup ∧
    ((s.methods.map (viewsOf s)).map (·.handler.name)).Nodup ∧
    ((s.methods.map (viewsOf s)).map fun v => v.calls.map (·.name)).Nodup := by
  simp only [List.map_map]
  refine ⟨h, ?_, h, ?_⟩
  · rw [List.nodup_iff_pairwise_ne, List.pairwise_map] at h ⊢
    refine h.imp fun hne heq => hne ?_
    exact congrArg Text.lowerFirst (methodDefinitionName_inj heq)
  · apply List.Nodup.of_map List.head?
    have hfirst : List.head? ∘ (fun v : Views => v.calls.map (·.name)) ∘ viewsOf s =
        some ∘ Method.clientName := by
      funext m
      simp only [Function.comp_apply, viewsOf, signaturesOf, signatures, settings]
      cases m.source.serverStreaming <;> rfl
    rw [List.map_map, hfirst, ← List.map_map]
    exact h.map (Option.some_injective _)

theorem definitionName_injective : Function.Injective fun name : String => "I" ++ name ++ "Service" := by
  intro a b h
  simpa using h

end Node

section Linked

open Node

theorem Method.views_of_link {index : TypeIndex} {viewer package : String} {m : Schema.Method} {m' : Method}
    {s : Stub} (hfull : s.fullName = Schema.qualify package s.name)
    (h : Method.link index viewer m = .ok m') : Views.Of index package s.name m (viewsOf s m') := by
  obtain ⟨request, hrequest, h⟩ := bind_eq_ok.mp h
  obtain ⟨response, hresponse, h⟩ := bind_eq_ok.mp h
  cases pure_eq_ok.mp h
  refine ⟨request, response, TypeIndex.resolve_eq_ok.mp hrequest, TypeIndex.resolve_eq_ok.mp hresponse, ?_⟩
  refine ⟨congrArg _ (methodDefinitionName_eq s _), ?_, rfl, rfl, length_signatures m _ _⟩
  rw [← hfull, viewsOf, definitionOf, methodDefinitionName_eq]
  rfl

theorem Stub.shows_of_link {index : TypeIndex} {viewer package : String} {s : Schema.Service} {s' : Stub}
    (hfull : s.fullName = Schema.qualify package s.name)
    (hmethods : (s.methods.map fun m => Text.lowerFirst m.name).Nodup)
    (h : Stub.link index viewer s = .ok s') :
    (declarations s').Shows index package s (s'.methods.map (viewsOf s')) := by
  obtain ⟨methods, hlinks, h⟩ := bind_eq_ok.mp h
  cases pure_eq_ok.mp h
  have hlinks := mapM_eq_ok.mp hlinks
  have hnames : (methods.map Method.clientName).Nodup := by
    have hsame : methods.map Method.clientName = s.methods.map fun m => Text.lowerFirst m.name := by
      refine map_related hlinks fun m _ m' hm => ?_
      exact congrArg (fun m => Text.lowerFirst m.name) (Method.source_of_link hm)
    rwa [hsame]
  refine ⟨?_, rfl, ?_, ?_, rfl, ?_, ?_, distinct_views hnames⟩
  · refine List.forall₂_map_right_iff.mpr (hlinks.imp fun m m' hm => ?_)
    exact Method.views_of_link (s := ⟨s.name, s.fullName, methods⟩) hfull hm
  · rw [List.map_map]
    rfl
  · rw [List.map_map]
    rfl
  · rw [List.map_map]
    rfl
  · rw [List.map_map]
    exact congrArg (fun cs => [(s.name ++ "Client", cs)]) (calls_flatMap hnames)

theorem File.shows_of_link {index : TypeIndex} {d : Descriptor.File} {f : Schema.File} {f' : File}
    (hload : Schema.File.load d = .ok f)
    (hmethods : ∀ s ∈ f.services, (s.methods.map fun m => Text.lowerFirst m.name).Nodup)
    (h : File.link index f = .ok f') :
    List.Forall₂ (fun s d => ∃ vs, DeclaredService.Shows index f.package s vs d) f.services
      (f'.services.map declarations) := by
  obtain ⟨stubs, hstubs, h⟩ := bind_eq_ok.mp h
  cases pure_eq_ok.mp h
  refine List.forall₂_map_right_iff.mpr (related_of_results (mapM_eq_ok.mp hstubs) fun s hs s' hs' => ?_)
  exact ⟨_, Stub.shows_of_link (Schema.File.fullName_of_service hload hs) (hmethods s hs) hs'⟩

end Linked

/-- The declaration of a node client and server shows each method alike in its four places. -/
theorem node_methods_alike {ds : List Descriptor.File} {files : List Schema.File} {index : TypeIndex}
    {parameters : Parameters} {f : Schema.File} {outputs : List OutputFile}
    (hload : ds.mapM Schema.File.load = .ok files)
    (hnames : ∀ g ∈ files, g.TypesNamed ∧ ∀ s ∈ g.services, s.Named)
    (hindex : TypeIndex.ofFiles files = .ok index) (hf : f ∈ files) (hservices : f.services ≠ [])
    (hdistinct : (f.services.map (·.name)).Nodup)
    (hmethods : ∀ s ∈ f.services, (s.methods.map fun m => Text.lowerFirst m.name).Nodup)
    (hvariant : parameters.service = .grpcNode) (h : Service.files index parameters f = .ok outputs) :
    ∃ content services,
      outputs = [⟨SourcePath.stem f.name ++ "_grpc_pb.d.ts", content⟩] ∧
      Node.read content = {
        imports := (f.stubImports index).map (fun target =>
          (SourcePath.namespaceName target, SourcePath.importPath f.name target)) ++
            [("grpc", Node.runtimePackage parameters.mode)]
        services } ∧
      List.Forall₂ (fun s d => ∃ vs, Node.DeclaredService.Shows index f.package s vs d) f.services services ∧
      (services.map (·.name)).Nodup := by
  obtain ⟨d, -, hd⟩ := (mem_results (mapM_eq_ok.mp hload)).mp hf
  have hexports := TypeIndex.named_exports hload hindex fun g hg => (hnames g hg).1
  have hsome : parameters.service ≠ .none := by
    rw [hvariant]
    decide
  obtain ⟨s, hs, rfl⟩ := exists_link_of_files hsome hservices h
  have hnamed := File.named_of_link hexports hd (hnames f hf).1 (hnames f hf).2 hs
  have htokens := File.tokens_of_link hexports hd (hnames f hf).1 (hnames f hf).2 hs
  have hread := Node.read_lines parameters.mode hnamed fun x hx => (htokens.services x hx).2
  have hshows := File.shows_of_link hd hmethods hs
  obtain ⟨hname, -, himports⟩ := File.imports_of_link hs
  refine ⟨Layout.render (Node.lines parameters.mode s), s.services.map Node.declarations, ?_, ?_, hshows, ?_⟩
  · rw [File.outputs, hvariant]
    simp only [nodeFiles, hname]
  · rw [hread, Node.declaration, himports, hname]
  · have hlist : (s.services.map Node.declarations).map (·.name) =
        f.services.map fun x => "I" ++ x.name ++ "Service" := by
      refine map_related hshows fun x _ d hd => ?_
      obtain ⟨vs, hvs⟩ := hd
      exact hvs.name
    have hnames := hdistinct.map Node.definitionName_injective
    rw [List.map_map] at hnames
    rw [hlist]
    exact hnames

theorem talkFile_node :
    [talkDescriptor, answerFile].mapM Schema.File.load = .ok talkFiles ∧
      (∀ g ∈ talkFiles, g.TypesNamed ∧ ∀ s ∈ g.services, s.Named) ∧
      TypeIndex.ofFiles talkFiles = .ok talkIndex ∧
      ∃ content d, Service.files talkIndex { service := .grpcNode } talkFile =
          .ok [⟨"a/talk_grpc_pb.d.ts", content⟩] ∧
        (Node.read content).services = [d] ∧
        d.members = [("ask", "ITalkService_IAsk"), ("listen", "ITalkService_IListen"),
          ("tell", "ITalkService_ITell"), ("chat", "ITalkService_IChat")] ∧
        d.methods.map (fun m => (m.path, m.requestStream, m.responseStream)) = [
          ("/a.Talk/Ask", "false", "false"), ("/a.Talk/Listen", "false", "true"),
          ("/a.Talk/Tell", "true", "false"), ("/a.Talk/Chat", "true", "true")] ∧
        d.clients.map (fun c => (c.name, (Node.calls c.signatures).map List.length)) =
          [("TalkClient", [3, 2, 3, 2])] := by
  have hload : [talkDescriptor, answerFile].mapM Schema.File.load = .ok talkFiles := by rfl
  have hindex : TypeIndex.ofFiles talkFiles = .ok talkIndex := by rfl
  have hnames : ∀ g ∈ talkFiles, g.TypesNamed ∧ ∀ s ∈ g.services, s.Named := by decide
  obtain ⟨outputs, houtputs⟩ : Succeeds (Service.files talkIndex { service := .grpcNode } talkFile) := by decide
  obtain ⟨content, services, rfl, hread, hshows, -⟩ :=
    node_methods_alike hload hnames hindex List.mem_cons_self (by simp [talkFile]) (by decide) (by decide) rfl
      houtputs
  cases hshows with
  | cons hd hrest =>
    cases hrest
    obtain ⟨vs, hvs⟩ := hd
    refine ⟨hload, hnames, hindex, content, _, houtputs, congrArg Node.Declared.services hread, ?_, ?_, ?_⟩
    · have hmembers := map_related hvs.views (g := (·.member))
        (k := fun m => (Text.lowerFirst m.name, "I" ++ "Talk" ++ "Service_I" ++ m.name))
        fun m _ v hv => by
          obtain ⟨_, _, hshown⟩ := hv.describes
          exact hshown.member
      rw [hvs.members, hmembers]
      decide
    · have hmethods := map_related hvs.views
        (g := fun v => (v.definition.path, v.definition.requestStream, v.definition.responseStream))
        (k := fun m => ("/" ++ Schema.qualify "a" "Talk" ++ "/" ++ m.name,
          if m.clientStreaming then "true" else "false", if m.serverStreaming then "true" else "false"))
        fun m _ v hv => by
          obtain ⟨_, _, hshown⟩ := hv.describes
          rw [hshown.definition]
          rfl
      rw [hvs.methods, List.map_map]
      exact hmethods
    · have hcounts := map_related hvs.views (g := (·.calls.length)) (k := fun m => Node.overloadCount m.shape)
        fun m _ v hv => by
          obtain ⟨_, _, hshown⟩ := hv.describes
          exact hshown.count
      have hclient := congrArg (List.map fun p => (p.1, p.2.map List.length)) hvs.client
      rw [List.map_map] at hclient
      refine hclient.trans ?_
      rw [List.map_singleton, List.map_map]
      exact congrArg (fun counts => [("Talk" ++ "Client", counts)]) hcounts

end ProtoStubs.Service
