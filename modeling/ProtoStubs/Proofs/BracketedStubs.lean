import ProtoStubs.Proofs.BracketedDeclaration
import ProtoStubs.Service.Files

/-!
# The brackets of stubs

The stubs of a service show its names and types between texts that open and close brackets. A call is spread
over several lines, and the blocks inside it are closed before the call is.
-/

namespace ProtoStubs.Service

open Layout Text

/-- The names that the stubs of a file show are tokens. -/
structure File.Tokens (f : File) : Prop where
  name : TokenChars f.name
  package : TokenChars f.package
  services : ∀ s ∈ f.services, s.Named ∧ TokenChars s.fullName
  imports : ∀ target ∈ f.imports, IsPath target

variable {s : Stub} {m : Method} {f : File}

theorem Method.Named.wellBracketed (h : m.Named) : WellBracketed m.name ∧ WellBracketed m.clientName ∧
    WellBracketed m.requestType ∧ WellBracketed m.responseType :=
  ⟨h.name.isToken.wellBracketed, h.clientName.wellBracketed, h.request.wellBracketed,
    h.response.wellBracketed⟩

theorem Method.wellBracketed_streams (m : Method) :
    WellBracketed m.requestStream ∧ WellBracketed m.responseStream :=
  ⟨m.isToken_requestStream.wellBracketed, m.isToken_responseStream.wellBracketed⟩

namespace Web

theorem bracketed_headLines (h : f.Tokens) : Bracketed (headLines f) :=
  .cons ((turns_ofList rfl).insert h.package.wellBracketed)
    (.cons ((turns_ofList rfl).insert h.name.wellBracketed) (.blank .nil))

theorem bracketed_methodType (hs : WellBracketed s.name) (hm : m.Named) : Bracketed (methodType s m) := by
  obtain ⟨hmethod, -, hrequest, hresponse⟩ := hm.wellBracketed
  have hhead : WellBracketed ("type " ++ s.name ++ m.name ++ " = ") :=
    (((turns_ofList rfl).insert hs).insert hmethod).text rfl
  have hstreams := m.wellBracketed_streams
  exact .blank (.braced hhead (.literal rfl (.cons (turns_between hs rfl rfl)
    (.cons (turns_between hstreams.1 rfl rfl) (.cons (turns_between hstreams.2 rfl rfl)
      (.cons (turns_between hrequest rfl rfl) (.cons (turns_between hresponse rfl rfl) .nil))))))
        (turns_ofList rfl))

theorem bracketed_serviceClass (hs : s.Named) : Bracketed (serviceClass s) := by
  have hname := hs.name.isToken.wellBracketed
  have hmethods : Bracketed (s.methods.map fun m =>
      line ("static readonly " ++ m.name ++ ": " ++ s.name ++ m.name ++ ";")) := by
    apply Bracketed.map_line
    intro m hm
    have hmethod := (hs.methods m hm).wellBracketed.1
    exact (((turns_between hmethod rfl rfl).insert hname).insert hmethod).text rfl
  exact .blank (.braced (turns_between hname rfl rfl) (.literal rfl hmethods) (turns_ofList rfl))

theorem bracketed_serviceLines (hs : s.Named) : Bracketed (serviceLines s) :=
  (Bracketed.flatMap fun m hm => bracketed_methodType hs.name.isToken.wellBracketed (hs.methods m hm)).append
    (bracketed_serviceClass hs)

theorem wellBracketed_statusType {name firstField : String} (hname : WellBracketed name)
    (hfield : WellBracketed firstField) :
    WellBracketed ("export type " ++ name ++ " = " ++ openBrace ++ " " ++ firstField ++
      ": string, code: number; metadata: grpc.Metadata " ++ closeBrace) :=
  (((((turns_between hname rfl rfl).text rfl).text rfl).insert hfield).text rfl).text rfl

theorem wellBracketed_handlerMember {event handler result : String} (hevent : WellBracketed event)
    (hhandler : WellBracketed handler) (hresult : WellBracketed result) :
    WellBracketed ("on(type: '" ++ event ++ "', handler: (" ++ handler ++ ") => void): " ++ result ++ ";") :=
  ((((turns_between hevent rfl rfl).insert hhandler).text rfl).insert hresult).text rfl

theorem bracketed_streamTypes : Bracketed streamTypes := by
  -- A literal is well bracketed by evaluation, and a handler takes three of them.
  have hhandler {event handler result : List Char} {lines : List Line}
      (hevent : readBrackets [] event = some []) (hh : readBrackets [] handler = some [])
      (hresult : readBrackets [] result = some []) (hlines : Bracketed lines) :
      Bracketed (handlerMember (.ofList event) (.ofList handler) (.ofList result) :: lines) :=
    .cons (wellBracketed_handlerMember (turns_ofList hevent) (turns_ofList hh) (turns_ofList hresult)) hlines
  have hresponses : Bracketed (braced "interface ResponseStream<T> " [
      line "cancel(): void;",
      handlerMember "data" "message: T" "ResponseStream<T>",
      handlerMember "end" "status?: Status" "ResponseStream<T>",
      handlerMember "status" "status: Status" "ResponseStream<T>"] "") :=
    .block rfl
      (.literal rfl (hhandler rfl rfl rfl (hhandler rfl rfl rfl (hhandler rfl rfl rfl .nil)))) rfl
  have hrequests : Bracketed (braced "interface RequestStream<T> " [
      line "write(message: T): RequestStream<T>;",
      line "end(): void;",
      line "cancel(): void;",
      handlerMember "end" "status?: Status" "RequestStream<T>",
      handlerMember "status" "status: Status" "RequestStream<T>"] "") :=
    .block rfl (.literal rfl (.literal rfl (.literal rfl
      (hhandler rfl rfl rfl (hhandler rfl rfl rfl .nil))))) rfl
  have hboth : Bracketed (braced "interface BidirectionalStream<ReqT, ResT> " [
      line "write(message: ReqT): BidirectionalStream<ReqT, ResT>;",
      line "end(): void;",
      line "cancel(): void;",
      handlerMember "data" "message: ResT" "BidirectionalStream<ReqT, ResT>",
      handlerMember "end" "status?: Status" "BidirectionalStream<ReqT, ResT>",
      handlerMember "status" "status: Status" "BidirectionalStream<ReqT, ResT>"] "") :=
    .block rfl (.literal rfl (.literal rfl (.literal rfl
      (hhandler rfl rfl rfl (hhandler rfl rfl rfl (hhandler rfl rfl rfl .nil)))))) rfl
  exact (((Bracketed.blank .nil).append hresponses).append hrequests).append hboth

theorem bracketed_sharedTypes (promises : Bool) : Bracketed (sharedTypes promises) := by
  have hstatuses : Bracketed [.blank, statusType "ServiceError" "message", statusType "Status" "details"] :=
    .blank (.cons (wellBracketed_statusType (turns_ofList rfl) (turns_ofList rfl))
      (.cons (wellBracketed_statusType (turns_ofList rfl) (turns_ofList rfl)) .nil))
  have hunary : Bracketed unaryResponse := .blank (.block rfl (.literal rfl .nil) rfl)
  have hresponse : Bracketed (if promises then [] else unaryResponse) := by
    split
    · exact .nil
    · exact hunary
  exact (hstatuses.append hresponse).append bracketed_streamTypes

theorem bracketed_promiseMember (hm : m.Named) : Bracketed (promiseMember m) := by
  obtain ⟨-, hclient, hrequest, hresponse⟩ := hm.wellBracketed
  exact .enclosed (Turns.text hclient rfl)
    (.cons (turns_between hrequest rfl rfl) (.literal rfl .nil)) (turns_between hresponse rfl rfl)

theorem bracketed_callbackMember (hm : m.Named) {others : List Line} (hothers : Bracketed others) :
    Bracketed (callbackMember m others) := by
  obtain ⟨-, hclient, hrequest, hresponse⟩ := hm.wellBracketed
  have hcallback : WellBracketed ("callback: (error: ServiceError|null, responseMessage: " ++
      m.responseType ++ "|null) => void") := turns_between hresponse rfl rfl
  exact .enclosed (Turns.text hclient rfl)
    (.append (.cons (turns_between hrequest rfl rfl) hothers) (.cons hcallback .nil)) (turns_ofList rfl)

theorem bracketed_clientMember (promises : Bool) (hm : m.Named) : Bracketed (clientMember promises m) := by
  obtain ⟨-, hclient, hrequest, hresponse⟩ := hm.wellBracketed
  unfold clientMember
  cases m.shape with
  | unary =>
    cases promises with
    | true => exact bracketed_promiseMember hm
    | false =>
      exact (bracketed_callbackMember hm (.literal rfl .nil)).append
        (bracketed_callbackMember hm .nil)
  | serverStreaming =>
    exact .cons (((((Turns.text hclient rfl).insert hrequest).text rfl).insert hresponse).text rfl) .nil
  | clientStreaming => exact .cons (((Turns.text hclient rfl).insert hrequest).text rfl) .nil
  | bidiStreaming =>
    exact .cons (((((Turns.text hclient rfl).insert hrequest).text rfl).insert hresponse).text rfl) .nil

theorem bracketed_clientClass (promises : Bool) (hs : s.Named) : Bracketed (clientClass promises s) := by
  have hmembers : Bracketed (s.methods.flatMap (clientMember promises)) :=
    .flatMap fun m hm => bracketed_clientMember promises (hs.methods m hm)
  exact .blank (.braced (turns_between hs.name.isToken.wellBracketed rfl rfl)
    (.literal rfl (.blank (.literal rfl hmembers))) (turns_ofList rfl))

theorem bracketed_lines (promises : Bool) (h : f.Tokens) : Bracketed (lines promises f) := by
  have himports : Bracketed (f.imports.map fun target => line (importLine f.name target)) :=
    Artifact.webDeclaration.bracketed_imports f.name h.imports
  have hruntime : WellBracketed ("import " ++ openBrace ++ "grpc" ++ closeBrace ++
      " from \"@improbable-eng/grpc-web\";") :=
    ((((turns_ofList rfl).text rfl).text rfl).text rfl).text rfl
  have hservices : Bracketed (f.services.flatMap serviceLines) :=
    .flatMap fun s hs => bracketed_serviceLines (h.services s hs).1
  have hclients : Bracketed (f.services.flatMap (clientClass promises)) :=
    .flatMap fun s hs => bracketed_clientClass promises (h.services s hs).1
  exact (((((bracketed_headLines h).append himports).append (.cons hruntime .nil)).append hservices).append
    (bracketed_sharedTypes promises)).append hclients

end Web

namespace WebScript

variable {body : List Line}

theorem bracketed_serviceObject (hs : WellBracketed s.name) (hfull : WellBracketed s.fullName) :
    Bracketed (serviceObject s) := by
  have hfunction : WellBracketed ("function " ++ s.name ++ "() " ++ openBrace ++ closeBrace) :=
    ((turns_between hs rfl rfl).text rfl).text rfl
  have hfullName : WellBracketed (s.name ++ ".serviceName = \"" ++ s.fullName ++ "\";") :=
    ((Turns.text hs rfl).insert hfull).text rfl
  exact .blank (.braced (turns_between hs rfl rfl)
    (.cons hfunction (.cons hfullName (.cons (turns_between hs rfl rfl) .nil))) (turns_ofList rfl))

theorem bracketed_methodObject (hs : WellBracketed s.name) (hm : m.Named) :
    Bracketed (methodObject s m) := by
  obtain ⟨hmethod, -, hrequest, hresponse⟩ := hm.wellBracketed
  have hhead : WellBracketed (s.name ++ "." ++ m.name ++ " = ") :=
    ((Turns.text hs rfl).insert hmethod).text rfl
  have hstreams := m.wellBracketed_streams
  have hanswer : WellBracketed ("responseType: " ++ m.responseType) := (turns_ofList rfl).insert hresponse
  exact .blank (.braced hhead (.cons (turns_between hmethod rfl rfl) (.cons (turns_between hs rfl rfl)
    (.cons (turns_between hstreams.1 rfl rfl) (.cons (turns_between hstreams.2 rfl rfl)
      (.cons (turns_between hrequest rfl rfl) (.cons hanswer .nil)))))) (turns_ofList rfl))

theorem bracketed_clientConstructor (hs : WellBracketed s.name) : Bracketed (clientConstructor s) := by
  have hoptions : WellBracketed ("this.options = options || " ++ openBrace ++ closeBrace ++ ";") :=
    (((turns_ofList rfl).text rfl).text rfl).text rfl
  exact .blank (.braced (turns_between hs rfl rfl) (.literal rfl (.cons hoptions .nil))
    (turns_ofList rfl))

theorem wellBracketed_export {name : String} (h : WellBracketed name) :
    WellBracketed ("exports." ++ name ++ " = " ++ name ++ ";") :=
  ((turns_between h rfl rfl).insert h).text rfl

theorem bracketed_clientFunction (hs : WellBracketed s.name) (hm : m.Named) {parameters : String}
    (hparameters : WellBracketed parameters) (hbody : Bracketed body) :
    Bracketed (clientFunction s m parameters body) :=
  .braced (((((Turns.text hs rfl).insert hm.wellBracketed.2.1).text rfl).insert hparameters).text rfl) hbody
    (turns_ofList rfl)

theorem turns_runtimeCall {function : String} (hfunction : WellBracketed function)
    (hs : WellBracketed s.name) (hm : m.Named) : Turns [] (runtimeCall function s m) [')'] :=
  ((((turns_between hfunction rfl rfl).insert hs).text rfl).insert hm.wellBracketed.1).text rfl

theorem bracketed_makeError (hbody : Bracketed body) : Bracketed (makeError ++ body) :=
  .literal rfl (.literal rfl (.literal rfl hbody))

theorem bracketed_clientSettings (hbody : Bracketed body) : Bracketed (clientSettings ++ body) :=
  .literal rfl (.literal rfl (.literal rfl (.literal rfl (.literal rfl hbody))))

theorem bracketed_promiseCall (hs : WellBracketed s.name) (hm : m.Named) : Bracketed (promiseCall s m) := by
  have hend : Bracketed (braced "onEnd: function (response) " (
      bracedElse unlessOk (makeError ++ [line "reject(err);"]) [line "resolve(response.message);"]) "") :=
    .block rfl
      (.bracedElse (turns_ofList rfl) (bracketed_makeError (.literal rfl .nil)) (.literal rfl .nil)) rfl
  have hcall : Bracketed (braced (runtimeCall "unary" s m) (
      [line "request: requestMessage,", line "host: serviceHost,", line "metadata: metadata,",
        line "transport: options.transport,", line "debug: options.debug,"] ++
      braced "onEnd: function (response) " (
        bracedElse unlessOk (makeError ++ [line "reject(err);"]) [line "resolve(response.message);"]) "")
      ");") :=
    .braced (turns_runtimeCall (turns_ofList rfl) hs hm)
      (.literal rfl (.literal rfl (.literal rfl (.literal rfl (.literal rfl hend))))) (turns_ofList rfl)
  exact bracketed_clientFunction hs hm (turns_ofList rfl)
    (.literal rfl (.literal rfl (.block rfl hcall rfl)))

theorem bracketed_callbackCall (hs : WellBracketed s.name) (hm : m.Named) :
    Bracketed (callbackCall s m) := by
  have hend : Bracketed (braced "onEnd: function (response) " (
      braced "if (callback) " (
        bracedElse unlessOk (makeError ++ [line "callback(err, null);"])
          [line "callback(null, response.message);"]) "") "") :=
    .block rfl (.block rfl
      (.bracedElse (turns_ofList rfl) (bracketed_makeError (.literal rfl .nil)) (.literal rfl .nil)) rfl) rfl
  have hshift : Bracketed (braced "if (arguments.length === 2) " [line "callback = arguments[1];"] "") :=
    .block rfl (.literal rfl .nil) rfl
  have hcall : Bracketed (braced ("var client = " ++ runtimeCall "unary" s m) (clientSettings ++ _) ");") :=
    .braced ((turns_ofList rfl).append (turns_runtimeCall (turns_ofList rfl) hs hm))
      (bracketed_clientSettings hend) (turns_ofList rfl)
  have hreturn : Bracketed (braced "return " (
      braced "cancel: function () " [line "callback = null;", line "client.close();"] "") ";") :=
    .block rfl (.block rfl (.literal rfl (.literal rfl .nil)) rfl) rfl
  exact bracketed_clientFunction hs hm (turns_ofList rfl) ((hshift.append hcall).append hreturn)

theorem bracketed_listeners (hasData : Bool) : Bracketed (listeners hasData) := by
  have hdata : Bracketed (if hasData then [line "data: [],"] else []) := by
    split
    · exact .literal rfl .nil
    · exact .nil
  exact .block rfl (hdata.append (.literal rfl (.literal rfl .nil))) rfl

theorem bracketed_tellEnd {event : String} (h : WellBracketed event) : Bracketed (tellEnd event) := by
  have htell : WellBracketed ("handler(" ++ openBrace ++
      " code: status, details: statusMessage, metadata: trailers " ++ closeBrace ++ ");") :=
    ((((turns_ofList rfl).text rfl).text rfl).text rfl).text rfl
  exact .braced (turns_between h rfl rfl) (.cons htell .nil) (turns_ofList rfl)

theorem bracketed_tellData {message : String} (h : WellBracketed message) :
    Bracketed (tellData message) :=
  .block rfl (.cons (turns_between h rfl rfl) .nil) rfl

theorem bracketed_endStream : Bracketed endStream :=
  ((bracketed_tellEnd (turns_ofList rfl)).append (bracketed_tellEnd (turns_ofList rfl))).append
    (.literal rfl .nil)

theorem bracketed_addHandler : Bracketed addHandler :=
  .block rfl (.literal rfl (.literal rfl .nil)) rfl

theorem bracketed_cancelStream : Bracketed cancelStream :=
  .block rfl (.literal rfl (.literal rfl .nil)) rfl

theorem bracketed_serverStreamCall (hs : WellBracketed s.name) (hm : m.Named) :
    Bracketed (serverStreamCall s m) := by
  have hmessage : Bracketed
      (braced "onMessage: function (responseMessage) " (tellData "responseMessage") ",") :=
    .block rfl (bracketed_tellData (turns_ofList rfl)) rfl
  have hend : Bracketed (braced "onEnd: function (status, statusMessage, trailers) " endStream "") :=
    .block rfl bracketed_endStream rfl
  have hcall : Bracketed (braced ("var client = " ++ runtimeCall "invoke" s m)
      (clientSettings ++ _ ++ _) ");") :=
    .braced ((turns_ofList rfl).append (turns_runtimeCall (turns_ofList rfl) hs hm))
      ((bracketed_clientSettings hmessage).append hend) (turns_ofList rfl)
  have hreturn : Bracketed (braced "return " (addHandler ++ cancelStream) ";") :=
    .block rfl (bracketed_addHandler.append bracketed_cancelStream) rfl
  exact bracketed_clientFunction hs hm (turns_ofList rfl)
    (((bracketed_listeners true).append hcall).append hreturn)

theorem bracketed_clientStreamCall (hasData : Bool) (hs : WellBracketed s.name) (hm : m.Named) :
    Bracketed (clientStreamCall hasData s m) := by
  have hcall : Bracketed (braced ("var client = " ++ runtimeCall "client" s m) [
      line "host: this.serviceHost,", line "metadata: metadata,",
      line "transport: this.options.transport"] ");") :=
    .braced ((turns_ofList rfl).append (turns_runtimeCall (turns_ofList rfl) hs hm))
      (.literal rfl (.literal rfl (.literal rfl .nil))) (turns_ofList rfl)
  have hend : Bracketed
      (braced "client.onEnd(function (status, statusMessage, trailers) " endStream ");") :=
    .block rfl bracketed_endStream rfl
  have hmessage : Bracketed (if hasData then
      braced "client.onMessage(function (message) " (tellData "message") ");" else []) := by
    split
    · exact .block rfl (bracketed_tellData (turns_ofList rfl)) rfl
    · exact .nil
  have hwrite : Bracketed (braced "write: function (requestMessage) "
      [line "client.send(requestMessage);", line "return this;"] ",") :=
    .block rfl (.literal rfl (.literal rfl .nil)) rfl
  have hfinish : Bracketed (braced "end: function () " [line "client.finishSend();"] ",") :=
    .block rfl (.literal rfl .nil) rfl
  have hreturn : Bracketed (braced "return " (addHandler ++ _ ++ _ ++ cancelStream) ";") :=
    .block rfl
      (((bracketed_addHandler.append hwrite).append hfinish).append bracketed_cancelStream) rfl
  exact bracketed_clientFunction hs hm (turns_ofList rfl)
    ((((((bracketed_listeners hasData).append hcall).append hend).append hmessage).append
      (.literal rfl .nil)).append hreturn)

theorem bracketed_clientMember (promises : Bool) (hs : WellBracketed s.name) (hm : m.Named) :
    Bracketed (clientMember promises s m) := by
  unfold clientMember
  cases m.shape with
  | unary =>
    cases promises with
    | true => exact bracketed_promiseCall hs hm
    | false => exact bracketed_callbackCall hs hm
  | serverStreaming => exact bracketed_serverStreamCall hs hm
  | clientStreaming => exact bracketed_clientStreamCall false hs hm
  | bidiStreaming => exact bracketed_clientStreamCall true hs hm

theorem bracketed_serviceLines (promises : Bool) (hs : s.Named) (hfull : TokenChars s.fullName) :
    Bracketed (serviceLines promises s) := by
  have hname := hs.name.isToken.wellBracketed
  have hclient : WellBracketed (s.name ++ "Client") := Turns.text hname rfl
  have hobjects : Bracketed (s.methods.flatMap (methodObject s)) :=
    .flatMap fun m hm => bracketed_methodObject hname (hs.methods m hm)
  have hmembers : Bracketed (s.methods.flatMap fun m => .blank :: clientMember promises s m) :=
    .flatMap fun m hm => .blank (bracketed_clientMember promises hname (hs.methods m hm))
  exact (((((bracketed_serviceObject hname hfull.wellBracketed).append hobjects).append
    (.blank (.cons (wellBracketed_export hname) .nil))).append (bracketed_clientConstructor hname)).append
      hmembers).append (.blank (.cons (wellBracketed_export hclient) .nil))

theorem bracketed_lines (promises : Bool) (h : f.Tokens) : Bracketed (lines promises f) := by
  have himports : Bracketed (f.imports.map fun target => line (requireLine f.name target)) :=
    Artifact.webScript.bracketed_imports f.name h.imports
  have hservices : Bracketed (f.services.flatMap (serviceLines promises)) :=
    .flatMap fun s hs => bracketed_serviceLines promises (h.services s hs).1 (h.services s hs).2
  exact (((Web.bracketed_headLines h).append himports).append (.literal rfl .nil)).append hservices

end WebScript

namespace Node

theorem wellBracketed_definitionName (hs : WellBracketed s.name) : WellBracketed (definitionName s) :=
  turns_between hs rfl rfl

theorem wellBracketed_methodDefinitionName (hs : WellBracketed s.name) (hm : m.Named) :
    WellBracketed (methodDefinitionName s m) :=
  (Turns.text (wellBracketed_definitionName hs) rfl).insert hm.wellBracketed.1

theorem bracketed_serviceDefinition (hs : s.Named) : Bracketed (serviceDefinition s) := by
  have hname := hs.name.isToken.wellBracketed
  have hmethods : Bracketed (s.methods.map fun m =>
      line (m.clientName ++ ": " ++ methodDefinitionName s m ++ ";")) := by
    apply Bracketed.map_line
    intro m hm
    have hm := hs.methods m hm
    exact ((Turns.text hm.wellBracketed.2.1 rfl).insert (wellBracketed_methodDefinitionName hname hm)).text rfl
  exact .blank (.braced (turns_between (wellBracketed_definitionName hname) rfl rfl) hmethods
    (turns_ofList rfl))

theorem bracketed_methodDefinition (hs : WellBracketed s.name) (hfull : WellBracketed s.fullName)
    (hm : m.Named) : Bracketed (methodDefinition s m) := by
  obtain ⟨hmethod, -, hrequest, hresponse⟩ := hm.wellBracketed
  have hhead : WellBracketed ("interface " ++ methodDefinitionName s m ++
      " extends grpc.MethodDefinition<" ++ m.requestType ++ ", " ++ m.responseType ++ "> ") :=
    ((((turns_between (wellBracketed_methodDefinitionName hs hm) rfl rfl).insert hrequest).text rfl).insert
      hresponse).text rfl
  have hpath : WellBracketed (s.path m) :=
    (turns_between hfull rfl rfl).insert hmethod
  have hstreams := m.wellBracketed_streams
  exact .blank (.braced hhead (.cons (turns_between hpath rfl rfl) (.cons (turns_between hstreams.1 rfl rfl)
    (.cons (turns_between hstreams.2 rfl rfl) (.cons (turns_between hrequest rfl rfl)
      (.cons (turns_between hrequest rfl rfl) (.cons (turns_between hresponse rfl rfl)
        (.cons (turns_between hresponse rfl rfl) .nil))))))) (turns_ofList rfl))

theorem bracketed_serverInterface (hs : s.Named) : Bracketed (serverInterface s) := by
  have hmethods : Bracketed (s.methods.map fun m => line (m.clientName ++ ": grpc." ++
      serverHandler m.shape ++ "<" ++ m.requestType ++ ", " ++ m.responseType ++ ">;")) := by
    apply Bracketed.map_line
    intro m hm
    obtain ⟨-, hclient, hrequest, hresponse⟩ := (hs.methods m hm).wellBracketed
    have hhandler : WellBracketed (serverHandler m.shape) := by
      cases m.shape <;> exact turns_ofList rfl
    exact ((((((Turns.text hclient rfl).insert hhandler).text rfl).insert hrequest).text rfl).insert
      hresponse).text rfl
  exact .blank (.braced (turns_between hs.name.isToken.wellBracketed rfl rfl) hmethods (turns_ofList rfl))

theorem wellBracketed_overloads (hm : m.Named) :
    (∀ parameters ∈ (overloads m).1, WellBracketed parameters) ∧ WellBracketed (overloads m).2 := by
  obtain ⟨-, -, hrequest, hresponse⟩ := hm.wellBracketed
  have hargument : WellBracketed ("argument: " ++ m.requestType) := (turns_ofList rfl).insert hrequest
  have hcallback : WellBracketed ("callback: grpc.requestCallback<" ++ m.responseType ++ ">") :=
    turns_between hresponse rfl rfl
  unfold overloads
  cases m.shape with
  | unary =>
    simp only [List.forall_mem_cons]
    exact ⟨⟨(Turns.text hargument rfl).insert hcallback,
      (((Turns.text hargument rfl).text rfl).text rfl).insert hcallback,
      (((Turns.text hargument rfl).text rfl).text rfl).insert hcallback, by simp⟩, turns_ofList rfl⟩
  | serverStreaming =>
    simp only [List.forall_mem_cons]
    exact ⟨⟨(Turns.text hargument rfl).text rfl, (Turns.text hargument rfl).text rfl, by simp⟩,
      turns_between hresponse rfl rfl⟩
  | clientStreaming =>
    simp only [List.forall_mem_cons]
    exact ⟨⟨hcallback, ((turns_ofList rfl).text rfl).insert hcallback,
      ((turns_ofList rfl).text rfl).insert hcallback, by simp⟩, turns_between hrequest rfl rfl⟩
  | bidiStreaming =>
    simp only [List.forall_mem_cons]
    exact ⟨⟨turns_ofList rfl, turns_ofList rfl, by simp⟩,
      ((turns_between hrequest rfl rfl).insert hresponse).text rfl⟩

theorem bracketed_clientMember (hm : m.Named) : Bracketed (clientMember m) := by
  obtain ⟨hparameters, hresult⟩ := wellBracketed_overloads hm
  apply Bracketed.map_line
  intro parameters hmem
  exact ((((Turns.text hm.wellBracketed.2.1 rfl).insert (hparameters parameters hmem)).text rfl).insert
    hresult).text rfl

theorem bracketed_clientClass (hs : s.Named) : Bracketed (clientClass s) := by
  have hmembers : Bracketed (s.methods.flatMap clientMember) :=
    .flatMap fun m hm => bracketed_clientMember (hs.methods m hm)
  exact .blank (.braced (turns_between hs.name.isToken.wellBracketed rfl rfl)
    (.literal rfl hmembers) (turns_ofList rfl))

theorem bracketed_serviceLines (hs : s.Named) (hfull : TokenChars s.fullName) :
    Bracketed (serviceLines s) := by
  have hname := hs.name.isToken.wellBracketed
  have hmethods : Bracketed (s.methods.flatMap (methodDefinition s)) :=
    .flatMap fun m hm => bracketed_methodDefinition hname hfull.wellBracketed (hs.methods m hm)
  have hconstant : WellBracketed ("export const " ++ s.name ++ "Service: " ++ definitionName s ++ ";") :=
    ((turns_between hname rfl rfl).insert (wellBracketed_definitionName hname)).text rfl
  exact ((((bracketed_serviceDefinition hs).append hmethods).append (.blank (.cons hconstant .nil))).append
    (bracketed_serverInterface hs)).append (bracketed_clientClass hs)

theorem bracketed_lines (mode : Mode) (h : f.Tokens) : Bracketed (lines mode f) := by
  have himports : Bracketed (f.imports.map fun target => line (Web.importLine f.name target)) :=
    Artifact.nodeDeclaration.bracketed_imports f.name h.imports
  have hpackage : WellBracketed (runtimePackage mode) := by
    cases mode <;> exact turns_ofList rfl
  have hservices : Bracketed (f.services.flatMap serviceLines) :=
    .flatMap fun s hs => bracketed_serviceLines (h.services s hs).1 (h.services s hs).2
  have hfirst : Bracketed [line "// GENERATED CODE -- DO NOT EDIT!", .blank] :=
    .literal rfl (.blank .nil)
  exact (((hfirst.append (Web.bracketed_headLines h)).append himports).append
    (.cons (turns_between hpackage rfl rfl) .nil)).append hservices

end Node

theorem File.wellBracketed_outputs (parameters : Parameters) (h : f.Tokens) :
    ∀ o ∈ f.outputs parameters, WellBracketed o.content := by
  unfold File.outputs
  cases parameters.service with
  | none => simp
  | grpcWeb =>
    simp only [webFiles, List.forall_mem_cons]
    exact ⟨Web.bracketed_lines false h, WebScript.bracketed_lines false h, by simp⟩
  | grpcPromise =>
    simp only [webFiles, List.forall_mem_cons]
    exact ⟨Web.bracketed_lines true h, WebScript.bracketed_lines true h, by simp⟩
  | grpcNode =>
    simp only [nodeFiles, List.forall_mem_cons]
    exact ⟨Node.bracketed_lines parameters.mode h, by simp⟩

end ProtoStubs.Service
