import ProtoStubs.Proofs.MovedText

/-!
# Stubs about renamed types

The stubs of a file that stays in its package are the same before and after a renaming: of a type of a
method they show the module and the name inside it.
-/

namespace ProtoStubs.Service

variable {ρ : String → String}

/-- Two methods that the stubs do not tell apart. -/
structure Method.Alike (m m' : Method) : Prop where
  name : m'.name = m.name
  clientStreaming : m'.source.clientStreaming = m.source.clientStreaming
  serverStreaming : m'.source.serverStreaming = m.source.serverStreaming
  requestType : m'.requestType = m.requestType
  responseType : m'.responseType = m.responseType
  requestFile : m'.request.fileName = m.request.fileName
  responseFile : m'.response.fileName = m.response.fileName

structure Stub.Alike (s s' : Stub) : Prop where
  name : s'.name = s.name
  fullName : s'.fullName = s.fullName
  methods : List.Forall₂ Method.Alike s.methods s'.methods

section Lines

variable {m m' : Method} {s s' : Stub}

theorem Method.Alike.clientName (h : m.Alike m') : m'.clientName = m.clientName :=
  congrArg Text.lowerFirst h.name

theorem Method.Alike.shape (h : m.Alike m') : m'.shape = m.shape := by
  rw [Method.shape, Method.shape, Schema.Method.shape, h.clientStreaming, h.serverStreaming]
  rfl

theorem Method.Alike.requestStream (h : m.Alike m') : m'.requestStream = m.requestStream := by
  rw [Method.requestStream, Method.requestStream, h.clientStreaming]

theorem Method.Alike.responseStream (h : m.Alike m') : m'.responseStream = m.responseStream := by
  rw [Method.responseStream, Method.responseStream, h.serverStreaming]

theorem Web.serviceLines_alike (h : s.Alike s') : serviceLines s' = serviceLines s := by
  have hmethods := flatMap_related h.methods (g := methodType s') (k := methodType s)
    fun m _ m' hm => by
      simp only [methodType, h.name, hm.name, hm.requestStream, hm.responseStream, hm.requestType,
        hm.responseType]
  have hmembers := map_related h.methods fun m _ m' hm =>
    congrArg (fun name => Layout.line ("static readonly " ++ name ++ ": " ++ s.name ++ name ++ ";"))
      hm.name
  simp only [serviceLines, serviceClass, hmethods, h.name, hmembers]

theorem Web.clientMember_alike (h : m.Alike m') (promises : Bool) :
    clientMember promises m' = clientMember promises m := by
  simp only [clientMember, promiseMember, callbackMember, h.shape, h.clientName, h.requestType,
    h.responseType]

theorem Web.clientClass_alike (h : s.Alike s') (promises : Bool) :
    clientClass promises s' = clientClass promises s := by
  have hmembers := flatMap_related h.methods fun m _ m' hm => Web.clientMember_alike hm promises
  simp only [clientClass, h.name, hmembers]

theorem WebScript.methodObject_alike (hs : s'.name = s.name) (h : m.Alike m') :
    methodObject s' m' = methodObject s m := by
  simp only [methodObject, hs, h.name, h.requestStream, h.responseStream, h.requestType,
    h.responseType]

theorem WebScript.clientMember_alike (hs : s'.name = s.name) (h : m.Alike m') (promises : Bool) :
    clientMember promises s' m' = clientMember promises s m := by
  simp only [clientMember, promiseCall, callbackCall, serverStreamCall, clientStreamCall,
    clientFunction, runtimeCall, hs, h.shape, h.name, h.clientName]

theorem WebScript.serviceLines_alike (h : s.Alike s') (promises : Bool) :
    serviceLines promises s' = serviceLines promises s := by
  have hobjects := flatMap_related h.methods fun m _ m' hm =>
    WebScript.methodObject_alike h.name hm
  have hmembers := flatMap_related h.methods fun m _ m' hm =>
    congrArg (List.cons .blank) (WebScript.clientMember_alike h.name hm promises)
  simp only [serviceLines, serviceObject, clientConstructor, h.name, h.fullName, hobjects, hmembers]

theorem Node.overloads_alike (h : m.Alike m') : overloads m' = overloads m := by
  simp only [overloads, h.shape, h.requestType, h.responseType]

theorem Node.clientMember_alike (h : m.Alike m') : clientMember m' = clientMember m := by
  simp only [clientMember, overloads_alike h, h.clientName]

theorem Node.methodDefinition_alike (hs : s.Alike s') (h : m.Alike m') :
    methodDefinition s' m' = methodDefinition s m := by
  simp only [methodDefinition, methodDefinitionName, definitionName, Stub.path, hs.name, hs.fullName,
    h.name, h.requestStream, h.responseStream, h.requestType, h.responseType]

theorem Node.serviceDefinition_alike (h : s.Alike s') :
    serviceDefinition s' = serviceDefinition s := by
  have hmember (m : Method) : methodDefinitionName s' m = methodDefinitionName s m := by
    rw [methodDefinitionName, methodDefinitionName, definitionName, definitionName, h.name]
  have hmembers := map_related h.methods
    (g := fun m => Layout.line (m.clientName ++ ": " ++ methodDefinitionName s m ++ ";"))
    (k := fun m => Layout.line (m.clientName ++ ": " ++ methodDefinitionName s m ++ ";"))
    fun m _ m' hm => by simp only [hm.clientName, methodDefinitionName, hm.name]
  simp only [serviceDefinition, hmember, hmembers, definitionName, h.name]

theorem Node.serverInterface_alike (h : s.Alike s') : serverInterface s' = serverInterface s := by
  have hmembers := map_related h.methods (g := fun m =>
      Layout.line (m.clientName ++ ": grpc." ++ serverHandler m.shape ++ "<" ++ m.requestType ++ ", " ++
        m.responseType ++ ">;"))
    fun m _ m' hm => by rw [hm.clientName, hm.shape, hm.requestType, hm.responseType]
  simp only [serverInterface, h.name, hmembers]

theorem Node.serviceLines_alike (h : s.Alike s') : serviceLines s' = serviceLines s := by
  have hdefinitions := flatMap_related h.methods fun m _ m' hm => methodDefinition_alike h hm
  have hmembers := flatMap_related h.methods fun m _ m' hm => clientMember_alike hm
  simp only [serviceLines, serviceDefinition_alike h, hdefinitions, serverInterface_alike h, clientClass,
    hmembers, definitionName, h.name]

end Lines

structure File.Alike (f f' : File) : Prop where
  name : f'.name = f.name
  package : f'.package = f.package
  services : List.Forall₂ Stub.Alike f.services f'.services

section Files

variable {f f' : File}

theorem File.Alike.imports (h : f.Alike f') : f'.imports = f.imports := by
  have horigins : f'.origins = f.origins := by
    refine flatMap_related h.services fun s _ s' hs => ?_
    refine flatMap_related hs.methods fun m _ m' hm => ?_
    rw [hm.requestFile, hm.responseFile]
  rw [File.imports, File.imports, horigins, h.name]

theorem Web.lines_alike (h : f.Alike f') (promises : Bool) : lines promises f' = lines promises f := by
  have hservices := flatMap_related h.services fun s _ s' hs => Web.serviceLines_alike hs
  have hclients := flatMap_related h.services fun s _ s' hs => Web.clientClass_alike hs promises
  simp only [lines, headLines, h.package, h.name, h.imports, hservices, hclients]

theorem WebScript.lines_alike (h : f.Alike f') (promises : Bool) :
    lines promises f' = lines promises f := by
  have hservices := flatMap_related h.services fun s _ s' hs =>
    WebScript.serviceLines_alike hs promises
  simp only [lines, Web.headLines, h.package, h.name, h.imports, hservices]

theorem Node.lines_alike (h : f.Alike f') (mode : Mode) : lines mode f' = lines mode f := by
  have hservices := flatMap_related h.services fun s _ s' hs => Node.serviceLines_alike hs
  simp only [lines, Web.headLines, h.package, h.name, h.imports, hservices]

theorem File.outputs_alike (h : f.Alike f') (parameters : Parameters) :
    f'.outputs parameters = f.outputs parameters := by
  simp only [File.outputs, webFiles, nodeFiles, Web.lines_alike h, WebScript.lines_alike h,
    Node.lines_alike h, h.name]

end Files

section Link

variable {index index' : TypeIndex} (h : index.Moved ρ index') (hρ : Function.Injective ρ)
  (viewer : String)

include h hρ

theorem Method.alike_link (m : Schema.Method) :
    Agree Method.Alike (Method.link index viewer m) (Method.link index' viewer (m.rename ρ)) := by
  refine (h.resolve hρ _ _ _).bind fun request request' hrequest => ?_
  refine (h.resolve hρ _ _ _).bind_pure fun response response' hresponse => ?_
  exact {
    name := rfl
    clientStreaming := rfl
    serverStreaming := rfl
    requestType := hrequest.namespacedName
    responseType := hresponse.namespacedName
    requestFile := hrequest.fileName
    responseFile := hresponse.fileName }

theorem Stub.alike_link {pkg : String} {s s' : Schema.Service} (hs : s.Moved ρ pkg pkg s') :
    Agree Stub.Alike (Stub.link index viewer s) (Stub.link index' viewer s') := by
  have hmethods : List.Forall₂ (fun m m' => Agree Method.Alike (Method.link index viewer m)
      (Method.link index' viewer m')) s.methods s'.methods := by
    rw [hs.methods, List.forall₂_map_right_iff]
    exact List.forall₂_same.mpr fun m _ => Method.alike_link h hρ viewer m
  exact (Agree.mapM hmethods).bind_pure fun ms ms' hms => ⟨hs.name, hs.fullName rfl, hms⟩

omit viewer in
theorem files_moved {f f' : Schema.File} (hf : f.Moved ρ f') (hpackage : f'.package = f.package)
    (parameters : Parameters) :
    Agree Eq (files index parameters f) (files index' parameters f') := by
  have hservices := hf.services
  rw [hpackage] at hservices
  have hnone : f'.services = [] ↔ f.services = [] := by
    rw [← List.length_eq_zero_iff, ← List.length_eq_zero_iff, hservices.length_eq]
  unfold files
  simp only [hnone]
  split
  · exact .refl (fun _ => rfl) _
  · have hstubs : List.Forall₂ (fun s s' => Agree Stub.Alike (Stub.link index f.name s)
        (Stub.link index' f.name s')) f.services f'.services :=
      hservices.imp fun s s' hs => Stub.alike_link h hρ f.name hs
    rw [File.link, File.link, hf.name, hpackage]
    refine Agree.bind_pure ((Agree.mapM hstubs).bind_pure fun ss ss' hss => ?_)
      fun g g' hg => (File.outputs_alike hg parameters).symm
    exact ⟨rfl, rfl, hss⟩

end Link

end ProtoStubs.Service
