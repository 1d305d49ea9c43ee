import Mathlib.Data.List.SplitBy
import ProtoStubs.Proofs.DeclaredNode
import ProtoStubs.Proofs.ReadDeclared

/-!
# What is read in the declaration of a node client and server

The names in a declaration are tokens, so each of its lines is read as it was written. The sections of a service
are its definition, those of its methods, a constant, the server and the client, and the whole declaration is
read as the imports and the services of its file.
-/

namespace ProtoStubs.Service.Node

open Layout Text

variable {s : Stub} {m : Method}

theorem isToken_definitionName (hs : IsName s.name) : IsToken (definitionName s) :=
  ((by decide : IsToken "I").append hs.isToken.2).append (by decide)

theorem isToken_methodDefinitionName (hs : IsName s.name) (hm : m.Named) :
    IsToken (methodDefinitionName s m) :=
  ((isToken_definitionName hs).append (by decide)).append hm.name.isToken.2

theorem isToken_path (hs : TokenChars s.fullName) (hm : m.Named) : IsToken (s.path m) :=
  (((by decide : IsToken "/").append hs).append (by decide)).append hm.name.isToken.2

theorem isToken_runtimePackage (mode : Mode) : IsToken (runtimePackage mode) := by
  cases mode <;> decide

theorem isToken_handlerType (shape : Schema.CallShape) : IsToken (handlerType shape) := by
  cases shape <;> decide

theorem serverHandler_line (m : Method) :
    m.clientName ++ ": grpc." ++ serverHandler m.shape ++ "<" ++ m.requestType ++ ", " ++ m.responseType ++
        ">;" =
      m.clientName ++ ": " ++ handlerType m.shape ++ "<" ++ m.requestType ++ ", " ++ m.responseType ++
        ">;" := by
  have htype : "grpc." ++ serverHandler m.shape = handlerType m.shape := by
    cases m.shape <;> rfl
  have hlead : ": grpc." = ": " ++ "grpc." := rfl
  rw [← htype, hlead]
  simp only [String.append_assoc]

section Legible

theorem legible_serviceDefinition (hs : s.Named) : ∀ l ∈ serviceDefinition s, Legible l := by
  have hname := isToken_definitionName hs.name
  have hhead : Legible (line ("interface " ++ definitionName s ++
      " extends grpc.ServiceDefinition<grpc.UntypedServiceImplementation> ")) :=
    ((legible_ofList rfl).append hname.not_mem_newline).append (newline_not_mem_ofList rfl)
  rw [serviceDefinition, List.singleton_append, List.forall_mem_cons]
  refine ⟨trivial, legible_braced hhead ?_ (newline_not_mem_ofList rfl)⟩
  rw [List.forall_mem_map]
  intro m hm
  have hmethod := isToken_methodDefinitionName hs.name (hs.methods m hm)
  exact (((legible_of_isToken (hs.methods m hm).clientName).append (newline_not_mem_ofList rfl)).append
    hmethod.not_mem_newline).append (newline_not_mem_ofList rfl)

theorem legible_methodDefinition (hs : IsName s.name) (hfull : TokenChars s.fullName) (hm : m.Named) :
    ∀ l ∈ methodDefinition s m, Legible l := by
  have hname := isToken_methodDefinitionName hs hm
  have hhead : Legible (line ("interface " ++ methodDefinitionName s m ++ " extends grpc.MethodDefinition<" ++
      m.requestType ++ ", " ++ m.responseType ++ "> ")) :=
    ((((((legible_ofList rfl).append hname.not_mem_newline).append (newline_not_mem_ofList rfl)).append
      hm.request.not_mem_newline).append (newline_not_mem_ofList rfl)).append
        hm.response.not_mem_newline).append (newline_not_mem_ofList rfl)
  have hfield {lead value tail : String} (hlead : Legible (line lead)) (hvalue : IsToken value)
      (htail : '\n' ∉ tail.toList) : Legible (line (lead ++ value ++ tail)) :=
    (hlead.append hvalue.not_mem_newline).append htail
  rw [methodDefinition, List.singleton_append, List.forall_mem_cons]
  refine ⟨trivial, legible_braced hhead ?_ (newline_not_mem_ofList rfl)⟩
  simp only [List.forall_mem_cons]
  exact ⟨hfield (legible_ofList rfl) (isToken_path hfull hm) (newline_not_mem_ofList rfl),
    hfield (legible_ofList rfl) m.isToken_requestStream (newline_not_mem_ofList rfl),
    hfield (legible_ofList rfl) m.isToken_responseStream (newline_not_mem_ofList rfl),
    hfield (legible_ofList rfl) hm.request (newline_not_mem_ofList rfl),
    hfield (legible_ofList rfl) hm.request (newline_not_mem_ofList rfl),
    hfield (legible_ofList rfl) hm.response (newline_not_mem_ofList rfl),
    hfield (legible_ofList rfl) hm.response (newline_not_mem_ofList rfl), by simp⟩

theorem legible_serverInterface (hs : s.Named) : ∀ l ∈ serverInterface s, Legible l := by
  have hhead : Legible (line ("export interface I" ++ s.name ++
      "Server extends grpc.UntypedServiceImplementation ")) :=
    ((legible_ofList rfl).append hs.name.isToken.not_mem_newline).append (newline_not_mem_ofList rfl)
  rw [serverInterface, List.singleton_append, List.forall_mem_cons]
  refine ⟨trivial, legible_braced hhead ?_ (newline_not_mem_ofList rfl)⟩
  rw [List.forall_mem_map]
  intro m hm
  obtain ⟨-, hrequest, hresponse⟩ := hs.methods m hm
  rw [serverHandler_line]
  exact (((((((legible_of_isToken (hs.methods m hm).clientName).append (newline_not_mem_ofList rfl)).append
    (isToken_handlerType _).not_mem_newline).append (newline_not_mem_ofList rfl)).append
      hrequest.not_mem_newline).append (newline_not_mem_ofList rfl)).append hresponse.not_mem_newline).append
        (newline_not_mem_ofList rfl)

theorem newline_not_mem_append {a b : String} (ha : '\n' ∉ a.toList) (hb : '\n' ∉ b.toList) :
    '\n' ∉ (a ++ b).toList := by
  rw [String.toList_append, List.mem_append, not_or]
  exact ⟨ha, hb⟩

theorem newline_not_mem_overloads (hm : m.Named) :
    (∀ parameters ∈ (overloads m).1, '\n' ∉ parameters.toList) ∧ '\n' ∉ (overloads m).2.toList := by
  have hrequest := hm.request.not_mem_newline
  have hresponse := hm.response.not_mem_newline
  have hargument : '\n' ∉ ("argument: " ++ m.requestType).toList :=
    newline_not_mem_append (newline_not_mem_ofList rfl) hrequest
  have hcallback : '\n' ∉ ("callback: grpc.requestCallback<" ++ m.responseType ++ ">").toList :=
    newline_not_mem_append (newline_not_mem_append (newline_not_mem_ofList rfl) hresponse)
      (newline_not_mem_ofList rfl)
  have hcomma {a b : String} (ha : '\n' ∉ a.toList) (hb : '\n' ∉ b.toList) : '\n' ∉ (a ++ ", " ++ b).toList :=
    newline_not_mem_append (newline_not_mem_append ha (newline_not_mem_ofList rfl)) hb
  have hstream {lead type : String} (hlead : '\n' ∉ lead.toList) (htype : '\n' ∉ type.toList) :
      '\n' ∉ (lead ++ type ++ ">").toList :=
    newline_not_mem_append (newline_not_mem_append hlead htype) (newline_not_mem_ofList rfl)
  unfold overloads
  cases m.shape with
  | unary =>
    simp only [List.forall_mem_cons]
    exact ⟨⟨hcomma hargument hcallback, hcomma (hcomma hargument (newline_not_mem_ofList rfl)) hcallback,
      hcomma (hcomma hargument (newline_not_mem_ofList rfl)) hcallback, by simp⟩, newline_not_mem_ofList rfl⟩
  | serverStreaming =>
    simp only [List.forall_mem_cons]
    exact ⟨⟨hcomma hargument (newline_not_mem_ofList rfl), hcomma hargument (newline_not_mem_ofList rfl),
      by simp⟩, hstream (newline_not_mem_ofList rfl) hresponse⟩
  | clientStreaming =>
    simp only [List.forall_mem_cons]
    exact ⟨⟨hcallback, hcomma (newline_not_mem_ofList rfl) hcallback,
      hcomma (newline_not_mem_ofList rfl) hcallback, by simp⟩, hstream (newline_not_mem_ofList rfl) hrequest⟩
  | bidiStreaming =>
    simp only [List.forall_mem_cons]
    exact ⟨⟨newline_not_mem_ofList rfl, newline_not_mem_ofList rfl, by simp⟩,
      hstream (newline_not_mem_append (newline_not_mem_append (newline_not_mem_ofList rfl) hrequest)
        (newline_not_mem_ofList rfl)) hresponse⟩

theorem legible_clientMember (hm : m.Named) : ∀ l ∈ clientMember m, Legible l := by
  obtain ⟨hparameters, hresult⟩ := newline_not_mem_overloads hm
  rw [clientMember, List.forall_mem_map]
  intro parameters hmem
  exact (((((legible_of_isToken hm.clientName).append (newline_not_mem_ofList rfl)).append
    (hparameters parameters hmem)).append (newline_not_mem_ofList rfl)).append hresult).append
      (newline_not_mem_ofList rfl)

theorem legible_clientClass (hs : s.Named) : ∀ l ∈ clientClass s, Legible l := by
  have hhead : Legible (line ("export class " ++ s.name ++ "Client extends grpc.Client ")) :=
    ((legible_ofList rfl).append hs.name.isToken.not_mem_newline).append (newline_not_mem_ofList rfl)
  rw [clientClass, List.singleton_append, List.forall_mem_cons]
  refine ⟨trivial, legible_braced hhead ?_ (newline_not_mem_ofList rfl)⟩
  rw [List.forall_mem_cons]
  refine ⟨legible_ofList rfl, fun l hl => ?_⟩
  obtain ⟨m, hm, hl⟩ := List.mem_flatMap.mp hl
  exact legible_clientMember (hs.methods m hm) l hl

theorem legible_serviceLines (hs : s.Named) (hfull : TokenChars s.fullName) :
    ∀ l ∈ serviceLines s, Legible l := by
  have hconstant : Legible (line ("export const " ++ s.name ++ "Service: " ++ definitionName s ++ ";")) :=
    ((((legible_ofList rfl).append hs.name.isToken.not_mem_newline).append (newline_not_mem_ofList rfl)).append
      (isToken_definitionName hs.name).not_mem_newline).append (newline_not_mem_ofList rfl)
  have hmethods : ∀ l ∈ s.methods.flatMap (methodDefinition s), Legible l := by
    intro l hl
    obtain ⟨m, hm, hl⟩ := List.mem_flatMap.mp hl
    exact legible_methodDefinition hs.name hfull (hs.methods m hm) l hl
  simp only [serviceLines, List.forall_mem_append, List.forall_mem_cons]
  exact ⟨⟨⟨⟨legible_serviceDefinition hs, hmethods⟩, trivial, hconstant, by simp⟩,
    legible_serverInterface hs⟩, legible_clientClass hs⟩

theorem legible_lines (mode : Mode) {f : File} (h : f.Named)
    (hfull : ∀ s ∈ f.services, TokenChars s.fullName) : ∀ l ∈ lines mode f, Legible l := by
  have himport (target : String) (htarget : target ∈ f.imports) :
      Legible (line (Web.importLine f.name target)) := by
    have hpath := h.imports target htarget
    exact ((((legible_ofList rfl).append (SourcePath.isToken_namespaceName hpath).not_mem_newline).append
      (newline_not_mem_ofList rfl)).append (SourcePath.isToken_importPath _ hpath).not_mem_newline).append
        (newline_not_mem_ofList rfl)
  have hruntime : Legible (line ("import * as grpc from \"" ++ runtimePackage mode ++ "\";")) :=
    ((legible_ofList rfl).append (isToken_runtimePackage mode).not_mem_newline).append
      (newline_not_mem_ofList rfl)
  have hservices : ∀ l ∈ f.services.flatMap serviceLines, Legible l := by
    intro l hl
    obtain ⟨s, hs, hl⟩ := List.mem_flatMap.mp hl
    exact legible_serviceLines (h.services s hs) (hfull s hs) l hl
  simp only [lines, List.forall_mem_append, List.forall_mem_cons, List.forall_mem_map]
  exact ⟨⟨⟨⟨⟨legible_ofList rfl, trivial, by simp⟩, Web.legible_headLines h⟩, himport⟩, hruntime, by simp⟩,
    hservices⟩

end Legible

section Items

theorem item?_closes (tail : String) : item? ⟨closeBrace ++ tail, []⟩ = none := by
  have hlead : (tokens (closeBrace ++ tail)).head? = some "\x7d" :=
    head?_tokens_append (closes_ofList rfl) (congrArg List.head? (tokens_ofList rfl)) tail
  rw [item?, hlead]
  rfl

theorem item?_comment {content : String} (h : (tokens content).head? = some "//") :
    item? ⟨content, []⟩ = none := by
  rw [item?, h]
  rfl

theorem item?_importLine {viewer target : String} (h : IsPath target) :
    item? ⟨Web.importLine viewer target, []⟩ =
      some (.imported (SourcePath.namespaceName target) (SourcePath.importPath viewer target)) := by
  have hname := SourcePath.isToken_namespaceName h
  have hpath := SourcePath.isToken_importPath viewer h
  have hlead : (tokens (Web.importLine viewer target)).head? = some "import" := by
    simp only [Web.importLine, String.append_assoc]
    exact head?_tokens_append (closes_ofList rfl) (congrArg List.head? (tokens_ofList rfl)) _
  have hfound : captures "import * as $ from \"$\";" (Web.importLine viewer target) =
      some [SourcePath.namespaceName target, SourcePath.importPath viewer target] :=
    captures_two hname hpath rfl rfl rfl
  rw [item?, hlead]
  simp only [import?, hfound]

theorem item?_runtime (mode : Mode) :
    item? ⟨"import * as grpc from \"" ++ runtimePackage mode ++ "\";", []⟩ =
      some (.imported "grpc" (runtimePackage mode)) := by
  have hlead : (tokens ("import * as grpc from \"" ++ runtimePackage mode ++ "\";")).head? = some "import" := by
    rw [String.append_assoc]
    exact head?_tokens_append (closes_ofList rfl) (congrArg List.head? (tokens_ofList rfl)) _
  have hline : "import * as grpc from \"" = "import * as " ++ "grpc" ++ " from \"" := rfl
  have hfound : captures "import * as $ from \"$\";"
      ("import * as grpc from \"" ++ runtimePackage mode ++ "\";") = some ["grpc", runtimePackage mode] := by
    rw [hline]
    exact captures_two (by decide) (isToken_runtimePackage mode) rfl rfl rfl
  rw [item?, hlead]
  simp only [import?, hfound]

theorem tokens_service : tokens
    "interface $ extends grpc.ServiceDefinition<grpc.UntypedServiceImplementation> \x7b" =
      ["interface", "$", "extends", "grpc.ServiceDefinition", "<", "grpc.UntypedServiceImplementation", ">",
        "\x7b"] := tokens_ofList rfl

theorem tokens_method : tokens "interface $ extends grpc.MethodDefinition<$, $> \x7b" =
    ["interface", "$", "extends", "grpc.MethodDefinition", "<", "$", ",", "$", ">", "\x7b"] := tokens_ofList rfl

theorem tokens_constant : tokens "export const $: $;" = ["export", "const", "$", ":", "$", ";"] :=
  tokens_ofList rfl

theorem tokens_server : tokens "export interface $ extends grpc.UntypedServiceImplementation \x7b" =
    ["export", "interface", "$", "extends", "grpc.UntypedServiceImplementation", "\x7b"] := tokens_ofList rfl

theorem tokens_client : tokens "export class $ extends grpc.Client \x7b" =
    ["export", "class", "$", "extends", "grpc.Client", "\x7b"] := tokens_ofList rfl

theorem outermost_serviceDefinition (s : Stub) : Outermost (serviceDefinition s) :=
  outermost_blank.append (outermost_braced _ _ _)

theorem member?_line {name type : String} (hname : IsToken name) (htype : IsToken type) :
    member? (name ++ ": " ++ type ++ ";") = some (name, type) := by
  have hline : tokens (name ++ ": " ++ type ++ ";") = [name, ":", type, ";"] := by
    rw [tokens_insert (.append (closes_ofList rfl) _) htype (opens_ofList rfl),
      tokens_token_append hname (opens_ofList rfl)]
    rfl
  have hpattern : tokens "$: $;" = ["$", ":", "$", ";"] := tokens_ofList rfl
  simp [member?, captures, hline, hpattern, capture]

theorem items_serviceDefinition (hs : s.Named) :
    (outline (serviceDefinition s)).filterMap item? =
      [.service (definitionName s) (s.methods.map fun m => (m.clientName, methodDefinitionName s m))] := by
  have hname := isToken_definitionName hs.name
  have hhead : "interface " ++ definitionName s ++
      " extends grpc.ServiceDefinition<grpc.UntypedServiceImplementation> " ++ openBrace =
        "interface " ++ definitionName s ++
          " extends grpc.ServiceDefinition<grpc.UntypedServiceImplementation> \x7b" := by
    rw [String.append_assoc]
    rfl
  have htokens : tokens ("interface " ++ definitionName s ++
      " extends grpc.ServiceDefinition<grpc.UntypedServiceImplementation> \x7b") =
        ["interface"] ++ definitionName s :: ["extends", "grpc.ServiceDefinition", "<",
          "grpc.UntypedServiceImplementation", ">", "\x7b"] := tokens_frame hname rfl rfl rfl
  have hmembers : (s.methods.map fun m =>
      (0, m.clientName ++ ": " ++ methodDefinitionName s m ++ ";")).filterMap
        (fun l : Nat × String => member? l.2) =
      s.methods.map fun m => (m.clientName, methodDefinitionName s m) := by
    rw [List.filterMap_map, ← List.filterMap_eq_map']
    refine List.filterMap_congr fun m hm => ?_
    have hmethod := hs.methods m hm
    rw [Function.comp_apply, member?_line hmethod.clientName (isToken_methodDefinitionName hs.name hmethod)]
  rw [serviceDefinition, outline_append (outermost_braced _ _ _), outline_blank, outline_braced, hhead,
    List.nil_append, List.filterMap_cons, List.filterMap_cons, item?_closes, written_map_line, item?, htokens]
  simp [service?, captures, htokens, tokens_service, capture, hmembers]

def definitionOf (s : Stub) (m : Method) : MethodDefinition where
  name := methodDefinitionName s m
  request := m.requestType
  response := m.responseType
  path := s.path m
  requestStream := m.requestStream
  responseStream := m.responseStream
  requestSerialize := m.requestType
  requestDeserialize := m.requestType
  responseSerialize := m.responseType
  responseDeserialize := m.responseType

theorem outermost_methodDefinition (s : Stub) (m : Method) : Outermost (methodDefinition s m) :=
  outermost_blank.append (outermost_braced _ _ _)

theorem items_methodDefinition (hs : IsName s.name) (hfull : TokenChars s.fullName) (hm : m.Named) :
    (outline (methodDefinition s m)).filterMap item? = [.method (definitionOf s m)] := by
  have hname := isToken_methodDefinitionName hs hm
  have hhead : "interface " ++ methodDefinitionName s m ++ " extends grpc.MethodDefinition<" ++ m.requestType ++
      ", " ++ m.responseType ++ "> " ++ openBrace =
        "interface " ++ methodDefinitionName s m ++ " extends grpc.MethodDefinition<" ++ m.requestType ++
          ", " ++ m.responseType ++ "> \x7b" := by
    rw [String.append_assoc]
    rfl
  have htokens : tokens ("interface " ++ methodDefinitionName s m ++ " extends grpc.MethodDefinition<" ++
      m.requestType ++ ", " ++ m.responseType ++ "> \x7b") =
        ["interface", methodDefinitionName s m, "extends", "grpc.MethodDefinition", "<", m.requestType, ",",
          m.responseType, ">", "\x7b"] := by
    rw [tokens_insert (.append (closes_ofList rfl) _) hm.response (opens_ofList rfl),
      tokens_insert (.append (closes_ofList rfl) _) hm.request (opens_ofList rfl),
      tokens_insert (closes_ofList rfl) hname (opens_ofList rfl)]
    rfl
  have hpath : captures "path: \"$\";" ("path: \"" ++ s.path m ++ "\";") = some [s.path m] :=
    captures_one (isToken_path hfull hm) rfl rfl
  have hclient : captures "requestStream: $;" ("requestStream: " ++ m.requestStream ++ ";") =
      some [m.requestStream] := captures_one m.isToken_requestStream rfl rfl
  have hserver : captures "responseStream: $;" ("responseStream: " ++ m.responseStream ++ ";") =
      some [m.responseStream] := captures_one m.isToken_responseStream rfl rfl
  have hwrite : captures "requestSerialize: grpc.serialize<$>;"
      ("requestSerialize: grpc.serialize<" ++ m.requestType ++ ">;") = some [m.requestType] :=
    captures_one hm.request rfl rfl
  have hread : captures "requestDeserialize: grpc.deserialize<$>;"
      ("requestDeserialize: grpc.deserialize<" ++ m.requestType ++ ">;") = some [m.requestType] :=
    captures_one hm.request rfl rfl
  have hwriteAnswer : captures "responseSerialize: grpc.serialize<$>;"
      ("responseSerialize: grpc.serialize<" ++ m.responseType ++ ">;") = some [m.responseType] :=
    captures_one hm.response rfl rfl
  have hreadAnswer : captures "responseDeserialize: grpc.deserialize<$>;"
      ("responseDeserialize: grpc.deserialize<" ++ m.responseType ++ ">;") = some [m.responseType] :=
    captures_one hm.response rfl rfl
  have hopen : captures "interface $ extends grpc.MethodDefinition<$, $> \x7b"
      ("interface " ++ methodDefinitionName s m ++ " extends grpc.MethodDefinition<" ++ m.requestType ++ ", " ++
        m.responseType ++ "> \x7b") = some [methodDefinitionName s m, m.requestType, m.responseType] := by
    simp [captures, htokens, tokens_method, capture]
  have hother : captures "interface $ extends grpc.ServiceDefinition<grpc.UntypedServiceImplementation> \x7b"
      ("interface " ++ methodDefinitionName s m ++ " extends grpc.MethodDefinition<" ++ m.requestType ++ ", " ++
        m.responseType ++ "> \x7b") = none := by
    simp [captures, htokens, tokens_service, capture]
  rw [methodDefinition, outline_append (outermost_braced _ _ _), outline_blank, outline_braced, hhead,
    List.nil_append, List.filterMap_cons, List.filterMap_cons, item?_closes, item?, htokens]
  simp [service?, hother, method?, hopen, methodPatterns, capturesAll, written, written?, line, hpath, hclient,
    hserver, hwrite, hread, hwriteAnswer, hreadAnswer, definitionOf]

theorem item?_constant (hs : IsName s.name) :
    item? ⟨"export const " ++ s.name ++ "Service: " ++ definitionName s ++ ";", []⟩ =
      some (.constant (s.name ++ "Service") (definitionName s)) := by
  have hname : IsToken (s.name ++ "Service") := hs.isToken.append (by decide)
  have hline : "export const " ++ s.name ++ "Service: " ++ definitionName s ++ ";" =
      "export const " ++ (s.name ++ "Service") ++ ": " ++ definitionName s ++ ";" := by
    simp only [String.append_assoc]
    rfl
  have htokens : tokens ("export const " ++ (s.name ++ "Service") ++ ": " ++ definitionName s ++ ";") =
      ["export", "const", s.name ++ "Service", ":", definitionName s, ";"] := by
    rw [tokens_insert (.append (closes_ofList rfl) _) (isToken_definitionName hs) (opens_ofList rfl),
      tokens_insert (closes_ofList rfl) hname (opens_ofList rfl)]
    rfl
  rw [hline, item?, htokens]
  simp [constant?, captures, htokens, tokens_constant, capture]

def handlerOf (m : Method) : Handler := ⟨m.clientName, handlerType m.shape, m.requestType, m.responseType⟩

theorem handler?_line (hm : m.Named) :
    handler? (m.clientName ++ ": grpc." ++ serverHandler m.shape ++ "<" ++ m.requestType ++ ", " ++
      m.responseType ++ ">;") = some (handlerOf m) := by
  have htokens : tokens (m.clientName ++ ": " ++ handlerType m.shape ++ "<" ++ m.requestType ++ ", " ++
      m.responseType ++ ">;") =
        [m.clientName, ":", handlerType m.shape, "<", m.requestType, ",", m.responseType, ">", ";"] := by
    rw [tokens_insert (.append (closes_ofList rfl) _) hm.response (opens_ofList rfl),
      tokens_insert (.append (closes_ofList rfl) _) hm.request (opens_ofList rfl),
      tokens_insert (.append (closes_ofList rfl) _) (isToken_handlerType _) (opens_ofList rfl),
      tokens_token_append hm.clientName (opens_ofList rfl)]
    rfl
  have hpattern : tokens "$: $<$, $>;" = ["$", ":", "$", "<", "$", ",", "$", ">", ";"] := tokens_ofList rfl
  rw [serverHandler_line]
  simp [handler?, captures, htokens, hpattern, capture, handlerOf]

theorem outermost_serverInterface (s : Stub) : Outermost (serverInterface s) :=
  outermost_blank.append (outermost_braced _ _ _)

theorem items_serverInterface (hs : s.Named) :
    (outline (serverInterface s)).filterMap item? =
      [.server ("I" ++ s.name ++ "Server") (s.methods.map handlerOf)] := by
  have hname : IsToken ("I" ++ s.name ++ "Server") :=
    ((by decide : IsToken "I").append hs.name.isToken.2).append (by decide)
  have hhead : "export interface I" ++ s.name ++ "Server extends grpc.UntypedServiceImplementation " ++
    openBrace =
      "export interface " ++ ("I" ++ s.name ++ "Server") ++
        " extends grpc.UntypedServiceImplementation \x7b" := by
    have hlead : "export interface I" = "export interface " ++ "I" := rfl
    rw [hlead]
    simp only [String.append_assoc]
    rfl
  have htokens : tokens ("export interface " ++ ("I" ++ s.name ++ "Server") ++
      " extends grpc.UntypedServiceImplementation \x7b") =
        ["export", "interface"] ++ ("I" ++ s.name ++ "Server") :: ["extends",
          "grpc.UntypedServiceImplementation", "\x7b"] := tokens_frame hname rfl rfl rfl
  have hhandlers : (s.methods.map fun m => (0, m.clientName ++ ": grpc." ++ serverHandler m.shape ++ "<" ++
      m.requestType ++ ", " ++ m.responseType ++ ">;")).filterMap (fun l : Nat × String => handler? l.2) =
        s.methods.map handlerOf := by
    rw [List.filterMap_map, ← List.filterMap_eq_map']
    refine List.filterMap_congr fun m hm => ?_
    rw [Function.comp_apply, handler?_line (hs.methods m hm)]
  rw [serverInterface, outline_append (outermost_braced _ _ _), outline_blank, outline_braced, hhead,
    List.nil_append, List.filterMap_cons, List.filterMap_cons, item?_closes, written_map_line, item?, htokens]
  simp [constant?, server?, captures, htokens, tokens_constant, tokens_server, capture, hhandlers]

end Items

section Calls

/-- The constructor of a client has no result, so it is no call. -/
theorem signatures_constructor (rest : List (Nat × String)) :
    Web.signatures
      ((0, "constructor(address: string, credentials: grpc.ChannelCredentials, options?: object);") :: rest) =
        Web.signatures rest := by
  have htokens :
      tokens "constructor(address: string, credentials: grpc.ChannelCredentials, options?: object);" =
      ["constructor", "(", "address", ":", "string", ",", "credentials", ":", "grpc.ChannelCredentials", ",",
        "options", "?", ":", "object", ")"] ++ [";"] := tokens_ofList rfl
  rw [Web.signatures, List.flatMap_cons, htokens, List.append_assoc, List.singleton_append,
    Web.filterMap_splitOn (by decide)]
  rfl

theorem tokens_comma (before after : String) :
    tokens (before ++ ", " ++ after) = tokens before ++ "," :: tokens after := by
  have hcomma : tokens ", " = [","] := tokens_ofList rfl
  rw [tokens_append_of_closes (.append (closes_ofList rfl) _), tokens_append_of_opens _ (opens_ofList rfl),
    hcomma, List.append_assoc]
  rfl

theorem tokens_overload (hm : m.Named) (parameters result : String) :
    tokens (m.clientName ++ "(" ++ parameters ++ "): " ++ result ++ ";") =
      m.clientName :: "(" :: (tokens parameters ++ ")" :: ":" :: (tokens result ++ [";"])) := by
  have hopen : tokens (m.clientName ++ "(") = [m.clientName, "("] := by
    rw [tokens_token_append hm.clientName (opens_ofList rfl)]
    rfl
  have hcolon : tokens "): " = [")", ":"] := tokens_ofList rfl
  have hend : tokens ";" = [";"] := tokens_ofList rfl
  rw [tokens_append_of_opens _ (opens_ofList rfl), tokens_append_of_closes (.append (closes_ofList rfl) _),
    tokens_append_of_opens _ (opens_ofList rfl), tokens_append_of_closes (.append (closes_ofList rfl) _), hopen,
    hcolon, hend]
  simp

def signaturesOf (m : Method) : List Signature := signatures m.source m.requestType m.responseType

theorem name_of_mem_signaturesOf {σ : Signature} (h : σ ∈ signaturesOf m) : σ.name = m.clientName := by
  obtain ⟨given, -, rfl⟩ := List.mem_map.mp h
  rfl

theorem readable_signaturesOf (hm : m.Named) : ∀ σ ∈ signaturesOf m, Web.Readable σ := by
  have hclient : ";" ≠ lowerFirst m.source.name := (hm.clientName.ne rfl).symm
  have hrequest : m.requestType ≠ "(" ∧ m.requestType ≠ ")" ∧ m.requestType ≠ "," ∧ ";" ≠ m.requestType :=
    ⟨hm.request.ne rfl, hm.request.ne rfl, hm.request.ne rfl, (hm.request.ne rfl).symm⟩
  have hresponse : m.responseType ≠ "(" ∧ m.responseType ≠ ")" ∧ m.responseType ≠ "," ∧ ";" ≠ m.responseType :=
    ⟨hm.response.ne rfl, hm.response.ne rfl, hm.response.ne rfl, (hm.response.ne rfl).symm⟩
  have hread : ∀ σ ∈ signaturesOf m, Web.signature? σ.tokens = some σ ∧ ";" ∉ σ.tokens := by
    rw [signaturesOf, signatures, Schema.Method.shape]
    cases m.source.clientStreaming <;> cases m.source.serverStreaming <;>
      simp [settings, resultType, Signature.tokens, Parameter.tokens, List.intercalate, Web.signature?,
        Web.arguments, Web.glue, Web.parameter?, hclient, hrequest, hresponse]
  exact fun σ hσ => ⟨(hread σ hσ).1, (hread σ hσ).2⟩

theorem tokens_clientMember (hm : m.Named) :
    (written (clientMember m)).flatMap (fun l => tokens l.2) =
      (signaturesOf m).flatMap fun σ => σ.tokens ++ [";"] := by
  have hargument : tokens ("argument: " ++ m.requestType) = ["argument", ":", m.requestType] := by
    rw [tokens_append_of_closes (closes_ofList rfl), hm.request.tokens]
    rfl
  have hcallback : tokens ("callback: grpc.requestCallback<" ++ m.responseType ++ ">") =
      ["callback", ":", "grpc.requestCallback", "<"] ++ m.responseType :: [">"] :=
    tokens_frame hm.response rfl rfl rfl
  have heither : tokens "metadataOrOptions: grpc.Metadata | grpc.CallOptions | null" =
      ["metadataOrOptions", ":", "grpc.Metadata", "|", "grpc.CallOptions", "|", "null"] := tokens_ofList rfl
  have hboth : tokens "metadata: grpc.Metadata | null, options: grpc.CallOptions | null" =
      ["metadata", ":", "grpc.Metadata", "|", "null", ",", "options", ":", "grpc.CallOptions", "|", "null"] :=
    tokens_ofList rfl
  have hmaybeEither : tokens "metadataOrOptions?: grpc.Metadata | grpc.CallOptions | null" =
      ["metadataOrOptions", "?", ":", "grpc.Metadata", "|", "grpc.CallOptions", "|", "null"] :=
    tokens_ofList rfl
  have hmaybeBoth : tokens "metadata?: grpc.Metadata | null, options?: grpc.CallOptions | null" =
      ["metadata", "?", ":", "grpc.Metadata", "|", "null", ",", "options", "?", ":", "grpc.CallOptions", "|",
        "null"] := tokens_ofList rfl
  have hunary : tokens "grpc.ClientUnaryCall" = ["grpc.ClientUnaryCall"] := tokens_ofList rfl
  have hreadable : tokens ("grpc.ClientReadableStream<" ++ m.responseType ++ ">") =
      ["grpc.ClientReadableStream", "<"] ++ m.responseType :: [">"] := tokens_frame hm.response rfl rfl rfl
  have hwritable : tokens ("grpc.ClientWritableStream<" ++ m.requestType ++ ">") =
      ["grpc.ClientWritableStream", "<"] ++ m.requestType :: [">"] := tokens_frame hm.request rfl rfl rfl
  have hduplex : tokens ("grpc.ClientDuplexStream<" ++ m.requestType ++ ", " ++ m.responseType ++ ">") =
      ["grpc.ClientDuplexStream", "<", m.requestType, ",", m.responseType, ">"] := by
    rw [tokens_insert (.append (closes_ofList rfl) _) hm.response (opens_ofList rfl),
      tokens_insert (closes_ofList rfl) hm.request (opens_ofList rfl)]
    rfl
  have hclient : lowerFirst m.source.name = m.clientName := rfl
  rw [clientMember, written_map_line, List.flatMap_map]
  simp only [tokens_overload hm]
  rw [overloads, signaturesOf, signatures, Method.shape, Schema.Method.shape, hclient]
  cases m.source.clientStreaming <;> cases m.source.serverStreaming <;>
    simp [-String.reduceAppend, tokens_comma, hargument, hcallback, heither, hboth, hmaybeEither, hmaybeBoth,
      hunary, hreadable, hwritable, hduplex, settings, resultType, Signature.tokens, Parameter.tokens,
      List.intercalate]

theorem signatures_clientMembers {methods : List Method} (h : ∀ m ∈ methods, m.Named) :
    Web.signatures (written (methods.flatMap clientMember)) = methods.flatMap signaturesOf := by
  induction methods with
  | nil => rfl
  | cons m methods ih =>
    rw [List.forall_mem_cons] at h
    rw [List.flatMap_cons, List.flatMap_cons, written_append,
      Web.signatures_append (readable_signaturesOf h.1) (tokens_clientMember h.1), ih h.2]

/-- The overloads of a call follow one another, and the next call has another name. -/
theorem calls_flatMap {methods : List Method} (h : (methods.map Method.clientName).Nodup) :
    calls (methods.flatMap signaturesOf) = methods.map signaturesOf := by
  have hne (m : Method) : signaturesOf m ≠ [] := by
    simp [signaturesOf, signatures, settings]
  rw [calls, List.flatMap_def]
  refine List.splitBy_flatten ?nonempty ?same ?different
  case nonempty =>
    intro hmem
    obtain ⟨m, -, hm⟩ := List.mem_map.mp hmem
    exact hne m hm
  case same =>
    intro block hblock
    obtain ⟨m, -, rfl⟩ := List.mem_map.mp hblock
    refine (List.pairwise_of_forall_mem_list fun σ hσ τ hτ => ?_).isChain
    rw [name_of_mem_signaturesOf hσ, name_of_mem_signaturesOf hτ, beq_self_eq_true]
  case different =>
    rw [List.isChain_map]
    refine (List.pairwise_map.mp h).isChain.imp fun m n hdiffer => ⟨hne m, hne n, ?_⟩
    rw [name_of_mem_signaturesOf (List.getLast_mem _), name_of_mem_signaturesOf (List.head_mem _)]
    simpa using hdiffer

theorem outermost_clientClass (s : Stub) : Outermost (clientClass s) :=
  outermost_blank.append (outermost_braced _ _ _)

theorem items_clientClass (hs : s.Named) :
    (outline (clientClass s)).filterMap item? =
      [.client ⟨s.name ++ "Client", s.methods.flatMap signaturesOf⟩] := by
  have hname : IsToken (s.name ++ "Client") := hs.name.isToken.append (by decide)
  have hhead : "export class " ++ s.name ++ "Client extends grpc.Client " ++ openBrace =
      "export class " ++ (s.name ++ "Client") ++ " extends grpc.Client \x7b" := by
    simp only [String.append_assoc]
    rfl
  have htokens : tokens ("export class " ++ (s.name ++ "Client") ++ " extends grpc.Client \x7b") =
      ["export", "class"] ++ (s.name ++ "Client") :: ["extends", "grpc.Client", "\x7b"] :=
    tokens_frame hname rfl rfl rfl
  have hbody : written (line
      "constructor(address: string, credentials: grpc.ChannelCredentials, options?: object);" ::
        s.methods.flatMap clientMember) =
      (0, "constructor(address: string, credentials: grpc.ChannelCredentials, options?: object);") ::
        written (s.methods.flatMap clientMember) := rfl
  rw [clientClass, outline_append (outermost_braced _ _ _), outline_blank, outline_braced, hhead, hbody,
    List.nil_append, List.filterMap_cons, List.filterMap_cons, item?_closes, item?, htokens]
  simp [constant?, server?, client?, captures, htokens, tokens_constant, tokens_server, tokens_client, capture,
    signatures_constructor, signatures_clientMembers hs.methods]

end Calls

section Services

def details (s : Stub) : List Item :=
  (s.methods.map fun m => .method (definitionOf s m)) ++ [
    .constant (s.name ++ "Service") (definitionName s),
    .server ("I" ++ s.name ++ "Server") (s.methods.map handlerOf),
    .client ⟨s.name ++ "Client", s.methods.flatMap signaturesOf⟩]

def members (s : Stub) : List (String × String) :=
  s.methods.map fun m => (m.clientName, methodDefinitionName s m)

theorem outermost_serviceLines (s : Stub) : Outermost (serviceLines s) :=
  ((((outermost_serviceDefinition s).append
    (outermost_flatMap fun m _ => outermost_methodDefinition s m)).append
      (outermost_blank.append (outermost_line _))).append (outermost_serverInterface s)).append
        (outermost_clientClass s)

theorem items_serviceLines (hs : s.Named) (hfull : TokenChars s.fullName) :
    (outline (serviceLines s)).filterMap item? = .service (definitionName s) (members s) :: details s := by
  have hmethods : (outline (s.methods.flatMap (methodDefinition s))).filterMap item? =
      s.methods.map fun m => .method (definitionOf s m) := by
    rw [outline_flatMap fun m _ => outermost_methodDefinition s m, List.filterMap_flatMap, List.map_eq_flatMap]
    exact List.flatMap_congr fun m hm => items_methodDefinition hs.name hfull (hs.methods m hm)
  have hconstant : outline [.blank,
      line ("export const " ++ s.name ++ "Service: " ++ definitionName s ++ ";")] =
      [⟨"export const " ++ s.name ++ "Service: " ++ definitionName s ++ ";", []⟩] := rfl
  have houtermost : Outermost [.blank,
      line ("export const " ++ s.name ++ "Service: " ++ definitionName s ++ ";")] :=
    outermost_blank.append (outermost_line _)
  rw [serviceLines, outline_append (outermost_clientClass s), outline_append (outermost_serverInterface s),
    outline_append houtermost, outline_append (outermost_flatMap fun m _ => outermost_methodDefinition s m),
    hconstant]
  simp only [List.filterMap_append, items_serviceDefinition hs, hmethods, items_serverInterface hs,
    items_clientClass hs, List.filterMap_cons, item?_constant hs.name]
  simp [details, members]

def items (mode : Mode) (f : File) : List Item :=
  (f.imports.map fun target =>
    .imported (SourcePath.namespaceName target) (SourcePath.importPath f.name target)) ++
  [.imported "grpc" (runtimePackage mode)] ++
  f.services.flatMap fun s => .service (definitionName s) (members s) :: details s

theorem items_lines (mode : Mode) {f : File} (h : f.Named) (hfull : ∀ s ∈ f.services, TokenChars s.fullName) :
    (outline (lines mode f)).filterMap item? = items mode f := by
  have hfirst : (outline ([line "// GENERATED CODE -- DO NOT EDIT!", .blank] ++ Web.headLines f)).filterMap
      item? = [] := by
    have hcode : (tokens "// GENERATED CODE -- DO NOT EDIT!").head? = some "//" :=
      congrArg List.head? (tokens_ofList rfl)
    have hpackage : (tokens ("// package: " ++ f.package)).head? = some "//" :=
      head?_tokens_append (closes_ofList rfl) (congrArg List.head? (tokens_ofList rfl)) _
    have hfile : (tokens ("// file: " ++ f.name)).head? = some "//" :=
      head?_tokens_append (closes_ofList rfl) (congrArg List.head? (tokens_ofList rfl)) _
    have houtline : outline ([line "// GENERATED CODE -- DO NOT EDIT!", .blank] ++ Web.headLines f) =
        [⟨"// GENERATED CODE -- DO NOT EDIT!", []⟩, ⟨"// package: " ++ f.package, []⟩,
          ⟨"// file: " ++ f.name, []⟩] := rfl
    rw [houtline, List.filterMap_cons, List.filterMap_cons, List.filterMap_cons, item?_comment hcode,
      item?_comment hpackage, item?_comment hfile]
    rfl
  have himports : (outline (f.imports.map fun target => line (Web.importLine f.name target))).filterMap item? =
      f.imports.map fun target =>
        .imported (SourcePath.namespaceName target) (SourcePath.importPath f.name target) := by
    rw [outline_map_line, List.filterMap_map, ← List.filterMap_eq_map']
    refine List.filterMap_congr fun target htarget => ?_
    rw [Function.comp_apply, item?_importLine (h.imports target htarget)]
  have hservices : (outline (f.services.flatMap serviceLines)).filterMap item? =
      f.services.flatMap fun s => .service (definitionName s) (members s) :: details s := by
    rw [outline_flatMap fun s _ => outermost_serviceLines s, List.filterMap_flatMap]
    exact List.flatMap_congr fun s hs => items_serviceLines (h.services s hs) (hfull s hs)
  rw [lines, outline_append (outermost_flatMap fun s _ => outermost_serviceLines s),
    outline_append (outermost_line _), outline_append (outermost_map_line _ _), outline_line]
  simp only [List.filterMap_append, hfirst, himports, hservices]
  rw [List.filterMap_cons, item?_runtime]
  rfl

def declarations (s : Stub) : DeclaredService where
  name := definitionName s
  members := members s
  methods := s.methods.map (definitionOf s)
  constants := [(s.name ++ "Service", definitionName s)]
  servers := [("I" ++ s.name ++ "Server", s.methods.map handlerOf)]
  clients := [⟨s.name ++ "Client", s.methods.flatMap signaturesOf⟩]

theorem declaredService_details (s : Stub) :
    declaredService (definitionName s) (members s) (details s) = declarations s := by
  simp [declaredService, declarations, details, Item.method?, Item.constant?, Item.server?, Item.client?,
    List.filterMap_cons, List.filterMap_map, Function.comp_def]

def declaration (mode : Mode) (f : File) : Declared where
  imports := (f.imports.map fun target =>
    (SourcePath.namespaceName target, SourcePath.importPath f.name target)) ++
      [("grpc", runtimePackage mode)]
  services := f.services.map declarations

theorem declared_items (mode : Mode) (f : File) : declared (items mode f) = declaration mode f := by
  have hdetails (s : Stub) : (details s).filterMap Item.part? = (details s).map .inr := by
    simp [details, Item.part?, List.filterMap_map, Function.comp_def]
  have hnone (s : Stub) : (details s).filterMap Item.imported? = [] := by
    simp [details, Item.imported?, List.filterMap_cons, List.filterMap_map, Function.comp_def]
  have hparts : (items mode f).filterMap Item.part? =
      f.services.flatMap fun s => .inl (definitionName s, members s) :: (details s).map .inr := by
    simp only [items, List.filterMap_append, List.filterMap_flatMap, List.filterMap_cons, hdetails]
    simp [Item.part?, List.filterMap_map, Function.comp_def]
  have himports : (items mode f).filterMap Item.imported? = (f.imports.map fun target =>
      (SourcePath.namespaceName target, SourcePath.importPath f.name target)) ++
        [("grpc", runtimePackage mode)] := by
    simp only [items, List.filterMap_append, List.filterMap_flatMap, List.filterMap_cons, hnone]
    simp [Item.imported?, List.filterMap_map, Function.comp_def]
  rw [declared, himports, hparts, gather_flatMap, List.map_map, declaration]
  simp only [Function.comp_def, declaredService_details]

theorem read_lines (mode : Mode) {f : File} (h : f.Named) (hfull : ∀ s ∈ f.services, TokenChars s.fullName) :
    read (render (lines mode f)) = declaration mode f := by
  rw [read, readLines_render (legible_lines mode h hfull), ← outline, items_lines mode h hfull, declared_items]

end Services

end ProtoStubs.Service.Node
