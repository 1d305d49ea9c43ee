import ProtoStubs.Proofs.LegibleLines

/-!
# What is read in the declaration of a client

Each part of a declaration is a list of outermost sections, and what these are is found part by part. The
whole declaration is read as the imports, the services and the clients of its file, and the types that all
clients share.
-/

namespace ProtoStubs.Service.Web

open Layout Text

variable {s : Stub} {m : Method}

theorem item?_of_closes (tail : String) : item? ⟨closeBrace ++ tail, []⟩ = none := by
  have hlead : (tokens (closeBrace ++ tail)).head? = some "\x7d" :=
    head?_tokens_append (closes_ofList rfl) (congrArg List.head? (tokens_ofList rfl)) tail
  rw [item?, hlead]
  rfl

theorem item?_importLine {viewer target : String} (h : IsPath target) :
    item? ⟨importLine viewer target, []⟩ =
      some (.imported (SourcePath.namespaceName target) (SourcePath.importPath viewer target)) := by
  have hname := SourcePath.isToken_namespaceName h
  have hpath := SourcePath.isToken_importPath viewer h
  have hlead : (tokens (importLine viewer target)).head? = some "import" := by
    simp only [importLine, String.append_assoc]
    exact head?_tokens_append (closes_ofList rfl) (congrArg List.head? (tokens_ofList rfl)) _
  have hfound : captures "import * as $ from \"$\";" (importLine viewer target) =
      some [SourcePath.namespaceName target, SourcePath.importPath viewer target] :=
    captures_two hname hpath rfl rfl rfl
  rw [item?, hlead]
  simp [import?, hfound]

theorem item?_runtime :
    item? ⟨"import " ++ openBrace ++ "grpc" ++ closeBrace ++ " from \"@improbable-eng/grpc-web\";", []⟩ =
      some (.imported "grpc" "@improbable-eng/grpc-web") := by
  have htokens : tokens "import \x7bgrpc\x7d from \"@improbable-eng/grpc-web\";" =
      ["import", "\x7b", "grpc", "\x7d", "from", "\"", "@improbable-eng/grpc-web", "\"", ";"] :=
    tokens_ofList rfl
  have hall : tokens "import * as $ from \"$\";" = ["import", "*", "as", "$", "from", "\"", "$", "\"", ";"] :=
    tokens_ofList rfl
  have hone : tokens "import \x7b$\x7d from \"$\";" =
      ["import", "\x7b", "$", "\x7d", "from", "\"", "$", "\"", ";"] := tokens_ofList rfl
  rw [runtime_line, item?, htokens]
  simp [import?, captures, htokens, hall, hone, capture]

def typeOf (s : Stub) (m : Method) : MethodType :=
  ⟨s.name ++ m.name, s.name, m.requestStream, m.responseStream, m.requestType, m.responseType⟩

theorem outermost_methodType (s : Stub) (m : Method) : Outermost (methodType s m) :=
  outermost_blank.append (outermost_braced _ _ _)

theorem items_methodType (hs : IsName s.name) (hm : m.Named) :
    (outline (methodType s m)).filterMap item? = [.methodType (typeOf s m)] := by
  have hname : IsToken (s.name ++ m.name) := hs.isToken.append hm.name.isToken.2
  have hhead : "type " ++ s.name ++ m.name ++ " = " ++ openBrace =
      "type " ++ (s.name ++ m.name) ++ " = \x7b" := by
    simp only [String.append_assoc]
    rfl
  have hlead : (tokens ("type " ++ (s.name ++ m.name) ++ " = \x7b")).head? = some "type" := by
    rw [String.append_assoc]
    exact head?_tokens_append (closes_ofList rfl) (congrArg List.head? (tokens_ofList rfl)) _
  have hopen : captures "type $ = \x7b" ("type " ++ (s.name ++ m.name) ++ " = \x7b") =
      some [s.name ++ m.name] := captures_one hname rfl rfl
  have hmethod : captures "readonly methodName: string;" "readonly methodName: string;" = some [] :=
    capture_self (dollar_not_mem_tokens (by decide))
  have hservice : captures "readonly service: typeof $;" ("readonly service: typeof " ++ s.name ++ ";") =
      some [s.name] := captures_one hs.isToken rfl rfl
  have hclient : captures "readonly requestStream: $;"
      ("readonly requestStream: " ++ m.requestStream ++ ";") = some [m.requestStream] :=
    captures_one m.isToken_requestStream rfl rfl
  have hserver : captures "readonly responseStream: $;"
      ("readonly responseStream: " ++ m.responseStream ++ ";") = some [m.responseStream] :=
    captures_one m.isToken_responseStream rfl rfl
  have hrequest : captures "readonly requestType: typeof $;"
      ("readonly requestType: typeof " ++ m.requestType ++ ";") = some [m.requestType] :=
    captures_one hm.request rfl rfl
  have hresponse : captures "readonly responseType: typeof $;"
      ("readonly responseType: typeof " ++ m.responseType ++ ";") = some [m.responseType] :=
    captures_one hm.response rfl rfl
  rw [methodType, outline_append (outermost_braced _ _ _), outline_blank, outline_braced, hhead,
    List.nil_append, List.filterMap_cons, List.filterMap_cons, item?_of_closes, item?, hlead]
  simp [methodType?, hopen, methodTypePatterns, capturesAll, written, written?, line, hmethod, hservice,
    hclient, hserver, hrequest, hresponse, typeOf]

theorem member?_line (hs : IsName s.name) (hm : m.Named) :
    member? ("static readonly " ++ m.name ++ ": " ++ s.name ++ m.name ++ ";") =
      some (m.name, s.name ++ m.name) := by
  have hname : IsToken (s.name ++ m.name) := hs.isToken.append hm.name.isToken.2
  have hline : "static readonly " ++ m.name ++ ": " ++ s.name ++ m.name ++ ";" =
      "static readonly " ++ m.name ++ ": " ++ (s.name ++ m.name) ++ ";" := by
    simp only [String.append_assoc]
  have hfound : captures "static readonly $: $;"
      ("static readonly " ++ m.name ++ ": " ++ (s.name ++ m.name) ++ ";") =
        some [m.name, s.name ++ m.name] := captures_two hm.name.isToken hname rfl rfl rfl
  rw [member?, hline, hfound]

theorem item?_class {name : String} (hname : IsToken name) (body : List (Nat × String)) :
    item? ⟨"export class " ++ name ++ " \x7b", body⟩ =
      match body with
      | (_, first) :: members =>
        if first = "static readonly serviceName: string;" then
          some (.serviceClass name (members.filterMap fun l => member? l.2))
        else if first = "readonly serviceHost: string;" then some (.client ⟨name, signatures members⟩)
        else none
      | [] => none := by
  have hlead : (tokens ("export class " ++ name ++ " \x7b")).head? = some "export" := by
    rw [String.append_assoc]
    exact head?_tokens_append (closes_ofList rfl) (congrArg List.head? (tokens_ofList rfl)) _
  have hopen : captures "export class $ \x7b" ("export class " ++ name ++ " \x7b") = some [name] :=
    captures_one hname rfl rfl
  rw [item?, hlead]
  simp only [class?, hopen]
  cases body <;> rfl

theorem outermost_serviceClass (s : Stub) : Outermost (serviceClass s) :=
  outermost_blank.append (outermost_braced _ _ _)

theorem items_serviceClass (hs : s.Named) :
    (outline (serviceClass s)).filterMap item? =
      [.serviceClass s.name (s.methods.map fun m => (m.name, s.name ++ m.name))] := by
  have hhead : "export class " ++ s.name ++ " " ++ openBrace = "export class " ++ s.name ++ " \x7b" := by
    rw [String.append_assoc]
    rfl
  have hmembers : (s.methods.map fun m =>
      (0, "static readonly " ++ m.name ++ ": " ++ s.name ++ m.name ++ ";")).filterMap
        (fun l : Nat × String => member? l.2) = s.methods.map fun m => (m.name, s.name ++ m.name) := by
    rw [List.filterMap_map, ← List.filterMap_eq_map']
    refine List.filterMap_congr fun m hm => ?_
    rw [Function.comp_apply, member?_line hs.name (hs.methods m hm)]
  rw [serviceClass, outline_append (outermost_braced _ _ _), outline_blank, outline_braced, hhead,
    List.nil_append, List.filterMap_cons, List.filterMap_cons, item?_of_closes,
    item?_class hs.name.isToken, written_cons, written_map_line]
  simp only [line, written?, Option.toList_some, List.singleton_append, if_pos, hmembers]
  rfl

section Signatures

theorem filterMap_splitOn {statement : List String} (h : ";" ∉ statement) (rest : List String) :
    ((statement ++ ";" :: rest).splitOn ";").filterMap signature? =
      (signature? statement).toList ++ (rest.splitOn ";").filterMap signature? := by
  rw [List.splitOn_append_cons_self, List.splitOn_eq_singleton h, List.filterMap_append,
    List.filterMap_cons]
  cases signature? statement <;> rfl

/-- The function that makes a client has no result, so it is no call. -/
theorem signatures_constructor (rest : List (Nat × String)) :
    signatures ((0, "constructor(serviceHost: string, options?: grpc.RpcOptions);") :: rest) =
      signatures rest := by
  have htokens : tokens "constructor(serviceHost: string, options?: grpc.RpcOptions);" =
      ["constructor", "(", "serviceHost", ":", "string", ",", "options", "?", ":", "grpc.RpcOptions", ")"] ++
        [";"] := tokens_ofList rfl
  rw [signatures, List.flatMap_cons, htokens, List.append_assoc, List.singleton_append,
    filterMap_splitOn (by decide)]
  rfl

/-- A call that is read back from the tokens it is declared with. -/
structure Readable (σ : Signature) : Prop where
  read : signature? σ.tokens = some σ
  end_not_mem : ";" ∉ σ.tokens

theorem signatures_append {ls : List (Nat × String)} {found : List Signature}
    (hfound : ∀ σ ∈ found, Readable σ)
    (h : ls.flatMap (fun l => tokens l.2) = found.flatMap fun σ => σ.tokens ++ [";"])
    (rest : List (Nat × String)) : signatures (ls ++ rest) = found ++ signatures rest := by
  rw [signatures, List.flatMap_append, h]
  clear h
  induction found with
  | nil => rfl
  | cons σ found ih =>
    rw [List.forall_mem_cons] at hfound
    rw [List.flatMap_cons, List.append_assoc, List.append_assoc, List.singleton_append,
      filterMap_splitOn hfound.1.end_not_mem, hfound.1.read, ih hfound.2]
    rfl

variable {promises : Bool}

theorem readable_signatures (hm : m.Named) : ∀ σ ∈ (s.describe m).signatures promises, Readable σ := by
  have hclient : ";" ≠ Text.lowerFirst m.name := (hm.clientName.ne rfl).symm
  have hrequest : m.requestType ≠ "(" ∧ m.requestType ≠ ")" ∧ m.requestType ≠ "," ∧ ";" ≠ m.requestType :=
    ⟨hm.request.ne rfl, hm.request.ne rfl, hm.request.ne rfl, (hm.request.ne rfl).symm⟩
  have hresponse : m.responseType ≠ "(" ∧ m.responseType ≠ ")" ∧ ";" ≠ m.responseType :=
    ⟨hm.response.ne rfl, hm.response.ne rfl, (hm.response.ne rfl).symm⟩
  have hread : ∀ σ ∈ (s.describe m).signatures promises,
      signature? σ.tokens = some σ ∧ ";" ∉ σ.tokens := by
    rw [Description.signatures, s.shape_describe]
    cases m.shape <;> cases promises <;>
      simp [Signature.tokens, Parameter.tokens, List.intercalate, Stub.describe, signature?, arguments,
        glue, parameter?, hclient, hrequest, hresponse]
  exact fun σ hσ => ⟨(hread σ hσ).1, (hread σ hσ).2⟩

theorem tokens_clientMember (hm : m.Named) :
    (written (clientMember promises m)).flatMap (fun l => tokens l.2) =
      ((s.describe m).signatures promises).flatMap fun σ => σ.tokens ++ [";"] := by
  have hname : tokens (m.clientName ++ "(") = [m.clientName, "("] := by
    rw [tokens_token_append hm.clientName (opens_ofList rfl)]
    rfl
  have hmessage : tokens ("requestMessage: " ++ m.requestType ++ ",") =
      ["requestMessage", ":"] ++ m.requestType :: [","] := tokens_frame hm.request rfl rfl rfl
  have hoptional : tokens "metadata?: grpc.Metadata" = ["metadata", "?", ":", "grpc.Metadata"] :=
    tokens_ofList rfl
  have hmetadata : tokens "metadata: grpc.Metadata," = ["metadata", ":", "grpc.Metadata", ","] :=
    tokens_ofList rfl
  have hcallback : tokens ("callback: (error: ServiceError|null, responseMessage: " ++ m.responseType ++
      "|null) => void") = ["callback", ":", "(", "error", ":", "ServiceError", "|", "null", ",",
        "responseMessage", ":"] ++ m.responseType :: ["|", "null", ")", "=", ">", "void"] :=
    tokens_frame hm.response rfl rfl rfl
  have hpromise : tokens ("): Promise<" ++ m.responseType ++ ">;") =
      [")", ":", "Promise", "<"] ++ m.responseType :: [">", ";"] := tokens_frame hm.response rfl rfl rfl
  have hunary : tokens "): UnaryResponse;" = [")", ":", "UnaryResponse", ";"] := tokens_ofList rfl
  have hserver : tokens (m.clientName ++ "(requestMessage: " ++ m.requestType ++
      ", metadata?: grpc.Metadata): ResponseStream<" ++ m.responseType ++ ">;") =
      [m.clientName, "(", "requestMessage", ":", m.requestType, ",", "metadata", "?", ":", "grpc.Metadata",
        ")", ":", "ResponseStream", "<", m.responseType, ">", ";"] := by
    rw [tokens_insert (.append (closes_ofList rfl) _) hm.response (opens_ofList rfl),
      tokens_insert (.append (closes_ofList rfl) _) hm.request (opens_ofList rfl),
      tokens_token_append hm.clientName (opens_ofList rfl)]
    rfl
  have hstream : tokens (m.clientName ++ "(metadata?: grpc.Metadata): RequestStream<" ++ m.requestType ++
      ">;") = [m.clientName, "(", "metadata", "?", ":", "grpc.Metadata", ")", ":", "RequestStream", "<",
        m.requestType, ">", ";"] := by
    rw [tokens_insert (.append (closes_ofList rfl) _) hm.request (opens_ofList rfl),
      tokens_token_append hm.clientName (opens_ofList rfl)]
    rfl
  have hbidi : tokens (m.clientName ++ "(metadata?: grpc.Metadata): BidirectionalStream<" ++
      m.requestType ++ ", " ++ m.responseType ++ ">;") =
      [m.clientName, "(", "metadata", "?", ":", "grpc.Metadata", ")", ":", "BidirectionalStream", "<",
        m.requestType, ",", m.responseType, ">", ";"] := by
    rw [tokens_insert (.append (closes_ofList rfl) _) hm.response (opens_ofList rfl),
      tokens_insert (.append (closes_ofList rfl) _) hm.request (opens_ofList rfl),
      tokens_token_append hm.clientName (opens_ofList rfl)]
    rfl
  have hclient : lowerFirst m.name = m.clientName := rfl
  rw [clientMember, Description.signatures, s.shape_describe]
  cases m.shape <;> cases promises <;>
    simp [promiseMember, callbackMember, written, written?, indent, indentBy, Line.indentBy, line, hname,
      hmessage, hoptional, hmetadata, hcallback, hpromise, hunary, hserver, hstream, hbidi, hclient,
      Signature.tokens, Parameter.tokens, List.intercalate, Stub.describe]

theorem signatures_clientMembers {methods : List Method} (h : ∀ m ∈ methods, m.Named) :
    signatures (written (methods.flatMap (clientMember promises))) =
      methods.flatMap fun m => (s.describe m).signatures promises := by
  induction methods with
  | nil => rfl
  | cons m methods ih =>
    rw [List.forall_mem_cons] at h
    rw [List.flatMap_cons, List.flatMap_cons, written_append,
      signatures_append (readable_signatures (s := s) h.1) (tokens_clientMember h.1), ih h.2]

end Signatures

theorem outermost_clientClass (promises : Bool) (s : Stub) : Outermost (clientClass promises s) :=
  outermost_blank.append (outermost_braced _ _ _)

theorem items_clientClass (promises : Bool) (hs : s.Named) :
    (outline (clientClass promises s)).filterMap item? =
      [.client ⟨s.name ++ "Client", s.methods.flatMap fun m => (s.describe m).signatures promises⟩] := by
  have hname : IsToken (s.name ++ "Client") := hs.name.isToken.append (by decide)
  have hhead : "export class " ++ s.name ++ "Client " ++ openBrace =
      "export class " ++ (s.name ++ "Client") ++ " \x7b" := by
    simp only [String.append_assoc]
    rfl
  have hbody : written ([line "readonly serviceHost: string;", .blank,
      line "constructor(serviceHost: string, options?: grpc.RpcOptions);"] ++
        s.methods.flatMap (clientMember promises)) =
      (0, "readonly serviceHost: string;") ::
        (0, "constructor(serviceHost: string, options?: grpc.RpcOptions);") ::
        written (s.methods.flatMap (clientMember promises)) := rfl
  rw [clientClass, outline_append (outermost_braced _ _ _), outline_blank, outline_braced, hhead, hbody,
    List.nil_append, List.filterMap_cons, List.filterMap_cons, item?_of_closes, item?_class hname]
  simp [signatures_constructor, signatures_clientMembers (s := s) hs.methods]

section Results

def handlerSignature (event : String) (handler result : List String) : Signature :=
  ⟨"on", [⟨"type", false, ["'", event, "'"]⟩, ⟨"handler", false, "(" :: handler ++ [")", "=", ">", "void"]⟩],
    result⟩

theorem tokens_handlerMember (event : String) (hevent : IsToken event) (handler result : String) :
    tokens ("on(type: '" ++ event ++ "', handler: (" ++ handler ++ ") => void): " ++ result ++ ";") =
      (handlerSignature event (tokens handler) (tokens result)).tokens ++ [";"] := by
  have hlead : tokens ("on(type: '" ++ event ++ "', handler: (") =
      ["on", "(", "type", ":", "'"] ++ event :: ["'", ",", "handler", ":", "("] :=
    tokens_frame hevent rfl rfl rfl
  have harrow : tokens ") => void): " = [")", "=", ">", "void", ")", ":"] := tokens_ofList rfl
  have hend : tokens ";" = [";"] := tokens_ofList rfl
  rw [tokens_append_of_opens _ (opens_ofList rfl), tokens_append_of_closes (.append (closes_ofList rfl) _),
    tokens_append_of_opens _ (opens_ofList rfl), tokens_append_of_closes (.append (closes_ofList rfl) _),
    hlead, harrow, hend]
  simp [handlerSignature, Signature.tokens, Parameter.tokens, List.intercalate]

theorem items_results (found : List Signature) {head name : String} {rest : List String} {body : List Line}
    (hhead : tokens head = "interface" :: name :: rest)
    (hbody : (written body).flatMap (fun l => tokens l.2) = found.flatMap fun σ => σ.tokens ++ [";"])
    (hfound : ∀ σ ∈ found, Readable σ) :
    (outline (braced head body "")).filterMap item? = [.interface ⟨name,
      found.map fun σ => (σ.name, σ.parameters.length), found.filterMap Signature.event?⟩] := by
  have hbrace : Opens openBrace := opens_ofList rfl
  have hopen : tokens (head ++ openBrace) = "interface" :: name :: (rest ++ tokens openBrace) := by
    rw [tokens_append_of_opens head hbrace, hhead]
    rfl
  have hread : signatures (written body) = found := by
    have happend := signatures_append hfound hbody []
    rwa [List.append_nil, show signatures [] = [] from rfl, List.append_nil] at happend
  rw [outline_braced, List.filterMap_cons, List.filterMap_cons, item?_of_closes, item?, hopen]
  simp [interface?, hopen, hread]

theorem tokens_cancel : tokens "cancel(): void;" = ["cancel", "(", ")", ":", "void", ";"] :=
  tokens_ofList rfl

theorem tokens_end : tokens "end(): void;" = ["end", "(", ")", ":", "void", ";"] := tokens_ofList rfl

theorem items_unaryResponse :
    (outline unaryResponse).filterMap item? = [.interface ⟨"UnaryResponse", [("cancel", 0)], []⟩] := by
  rw [unaryResponse, outline_append (outermost_braced _ _ _), outline_blank, List.nil_append,
    items_results [⟨"cancel", [], ["void"]⟩] (tokens_ofList rfl)]
  · rfl
  · simp [written, written?, line, tokens_cancel, Signature.tokens, List.intercalate]
  · simp only [List.forall_mem_singleton]
    exact ⟨rfl, by decide⟩

theorem items_streamTypes :
    (outline streamTypes).filterMap item? = (results true).map .interface := by
  have hmessage : tokens "message: T" = ["message", ":", "T"] := tokens_ofList rfl
  have hanswer : tokens "message: ResT" = ["message", ":", "ResT"] := tokens_ofList rfl
  have hending : tokens "status?: Status" = ["status", "?", ":", "Status"] := tokens_ofList rfl
  have hstatus : tokens "status: Status" = ["status", ":", "Status"] := tokens_ofList rfl
  have hresponse : tokens "ResponseStream<T>" = ["ResponseStream", "<", "T", ">"] := tokens_ofList rfl
  have hrequest : tokens "RequestStream<T>" = ["RequestStream", "<", "T", ">"] := tokens_ofList rfl
  have hbidi : tokens "BidirectionalStream<ReqT, ResT>" =
      ["BidirectionalStream", "<", "ReqT", ",", "ResT", ">"] := tokens_ofList rfl
  have hwrite : tokens "write(message: T): RequestStream<T>;" =
      ["write", "(", "message", ":", "T", ")", ":", "RequestStream", "<", "T", ">", ";"] := tokens_ofList rfl
  have hwrite' : tokens "write(message: ReqT): BidirectionalStream<ReqT, ResT>;" =
      ["write", "(", "message", ":", "ReqT", ")", ":", "BidirectionalStream", "<", "ReqT", ",", "ResT", ">",
        ";"] := tokens_ofList rfl
  have hdata := tokens_handlerMember "data" (by decide)
  have hend := tokens_handlerMember "end" (by decide)
  have hstatusEvent := tokens_handlerMember "status" (by decide)
  rw [streamTypes, outline_append (outermost_braced _ _ _), outline_append (outermost_braced _ _ _),
    outline_append (outermost_braced _ _ _), outline_blank, List.nil_append, List.filterMap_append,
    List.filterMap_append,
    items_results [⟨"cancel", [], ["void"]⟩,
      handlerSignature "data" ["message", ":", "T"] ["ResponseStream", "<", "T", ">"],
      handlerSignature "end" ["status", "?", ":", "Status"] ["ResponseStream", "<", "T", ">"],
      handlerSignature "status" ["status", ":", "Status"] ["ResponseStream", "<", "T", ">"]] (tokens_ofList rfl),
    items_results [
      ⟨"write", [⟨"message", false, ["T"]⟩], ["RequestStream", "<", "T", ">"]⟩, ⟨"end", [], ["void"]⟩,
      ⟨"cancel", [], ["void"]⟩,
      handlerSignature "end" ["status", "?", ":", "Status"] ["RequestStream", "<", "T", ">"],
      handlerSignature "status" ["status", ":", "Status"] ["RequestStream", "<", "T", ">"]] (tokens_ofList rfl),
    items_results [
      ⟨"write", [⟨"message", false, ["ReqT"]⟩], ["BidirectionalStream", "<", "ReqT", ",", "ResT", ">"]⟩,
      ⟨"end", [], ["void"]⟩, ⟨"cancel", [], ["void"]⟩,
      handlerSignature "data" ["message", ":", "ResT"] ["BidirectionalStream", "<", "ReqT", ",", "ResT", ">"],
      handlerSignature "end" ["status", "?", ":", "Status"]
        ["BidirectionalStream", "<", "ReqT", ",", "ResT", ">"],
      handlerSignature "status" ["status", ":", "Status"]
        ["BidirectionalStream", "<", "ReqT", ",", "ResT", ">"]] (tokens_ofList rfl)]
  · rfl
  · simp [-String.reduceAppend, written, written?, line, handlerMember, tokens_cancel, tokens_end, hwrite',
      hdata, hend, hstatusEvent, hanswer, hending, hstatus, hbidi, Signature.tokens, Parameter.tokens,
      List.intercalate]
  · simp only [List.forall_mem_cons]
    exact ⟨⟨rfl, by decide⟩, ⟨rfl, by decide⟩, ⟨rfl, by decide⟩, ⟨rfl, by decide⟩, ⟨rfl, by decide⟩,
      ⟨rfl, by decide⟩, by simp⟩
  · simp [-String.reduceAppend, written, written?, line, handlerMember, tokens_cancel, tokens_end, hwrite,
      hend, hstatusEvent, hending, hstatus, hrequest, Signature.tokens, Parameter.tokens, List.intercalate]
  · simp only [List.forall_mem_cons]
    exact ⟨⟨rfl, by decide⟩, ⟨rfl, by decide⟩, ⟨rfl, by decide⟩, ⟨rfl, by decide⟩, ⟨rfl, by decide⟩,
      by simp⟩
  · simp [-String.reduceAppend, written, written?, line, handlerMember, tokens_cancel, hdata, hend,
      hstatusEvent, hmessage, hending, hstatus, hresponse, Signature.tokens, List.intercalate]
  · simp only [List.forall_mem_cons]
    exact ⟨⟨rfl, by decide⟩, ⟨rfl, by decide⟩, ⟨rfl, by decide⟩, ⟨rfl, by decide⟩, by simp⟩

end Results

theorem item?_status {content : String} (h : (tokens content).head? = some "export") :
    item? ⟨content, []⟩ = none := by
  rw [item?, h]
  simp only [class?]
  split <;> simp_all

theorem outermost_unaryResponse : Outermost unaryResponse :=
  outermost_blank.append (outermost_braced _ _ _)

theorem outermost_streamTypes : Outermost streamTypes :=
  ((outermost_blank.append (outermost_braced _ _ _)).append (outermost_braced _ _ _)).append
    (outermost_braced _ _ _)

theorem outermost_sharedTypes (promises : Bool) : Outermost (sharedTypes promises) := by
  have hfirst : Outermost [.blank, statusType "ServiceError" "message", statusType "Status" "details"] := rfl
  apply Outermost.append _ outermost_streamTypes
  cases promises with
  | true => exact hfirst
  | false => exact hfirst.append outermost_unaryResponse

theorem items_sharedTypes (promises : Bool) :
    (outline (sharedTypes promises)).filterMap item? = (results promises).map .interface := by
  have hstatus (name firstField : String) : (outline [statusType name firstField]).filterMap item? = [] := by
    have hlead : (tokens ("export type " ++ name ++ " = " ++ openBrace ++ " " ++ firstField ++
        ": string, code: number; metadata: grpc.Metadata " ++ closeBrace)).head? = some "export" := by
      simp only [String.append_assoc]
      exact head?_tokens_append (closes_ofList rfl) (congrArg List.head? (tokens_ofList rfl)) _
    rw [statusType, outline_line, List.filterMap_cons, item?_status hlead]
    rfl
  have hfirst : (outline [.blank, statusType "ServiceError" "message",
      statusType "Status" "details"]).filterMap item? = [] := by
    have happend : outline [.blank, statusType "ServiceError" "message", statusType "Status" "details"] =
        outline [statusType "ServiceError" "message"] ++ outline [statusType "Status" "details"] := rfl
    rw [happend, List.filterMap_append, hstatus, hstatus]
    rfl
  rw [sharedTypes, outline_append outermost_streamTypes, List.filterMap_append, items_streamTypes]
  cases promises with
  | true =>
    rw [if_pos rfl, List.append_nil, hfirst]
    rfl
  | false =>
    rw [if_neg Bool.false_ne_true, outline_append outermost_unaryResponse, List.filterMap_append, hfirst,
      items_unaryResponse]
    rfl

theorem item?_comment {content : String} (h : (tokens content).head? = some "//") :
    item? ⟨content, []⟩ = none := by
  rw [item?, h]
  rfl

theorem items_headLines (f : File) : (outline (headLines f)).filterMap item? = [] := by
  have hpackage : (tokens ("// package: " ++ f.package)).head? = some "//" :=
    head?_tokens_append (closes_ofList rfl) (congrArg List.head? (tokens_ofList rfl)) _
  have hfile : (tokens ("// file: " ++ f.name)).head? = some "//" :=
    head?_tokens_append (closes_ofList rfl) (congrArg List.head? (tokens_ofList rfl)) _
  have houtline : outline (headLines f) = [⟨"// package: " ++ f.package, []⟩, ⟨"// file: " ++ f.name, []⟩] :=
    rfl
  rw [houtline, List.filterMap_cons, List.filterMap_cons, item?_comment hpackage, item?_comment hfile]
  rfl

theorem outermost_serviceLines (s : Stub) : Outermost (serviceLines s) :=
  (outermost_flatMap fun m _ => outermost_methodType s m).append (outermost_serviceClass s)

theorem items_serviceLines (hs : s.Named) :
    (outline (serviceLines s)).filterMap item? = (s.methods.map fun m => .methodType (typeOf s m)) ++
      [.serviceClass s.name (s.methods.map fun m => (m.name, s.name ++ m.name))] := by
  rw [serviceLines, outline_append (outermost_serviceClass s), List.filterMap_append, items_serviceClass hs,
    outline_flatMap fun m _ => outermost_methodType s m, List.filterMap_flatMap]
  congr 1
  rw [List.map_eq_flatMap]
  exact List.flatMap_congr fun m hm => items_methodType hs.name (hs.methods m hm)

def items (promises : Bool) (f : File) : List Item :=
  (f.imports.map fun target =>
    .imported (SourcePath.namespaceName target) (SourcePath.importPath f.name target)) ++
  [.imported "grpc" "@improbable-eng/grpc-web"] ++
  (f.services.flatMap fun s => (s.methods.map fun m => .methodType (typeOf s m)) ++
    [.serviceClass s.name (s.methods.map fun m => (m.name, s.name ++ m.name))]) ++
  (results promises).map .interface ++
  f.services.map fun s =>
    .client ⟨s.name ++ "Client", s.methods.flatMap fun m => (s.describe m).signatures promises⟩

theorem items_lines (promises : Bool) {f : File} (h : f.Named) :
    (outline (lines promises f)).filterMap item? = items promises f := by
  have himports : (outline (f.imports.map fun target => line (importLine f.name target))).filterMap item? =
      f.imports.map fun target =>
        .imported (SourcePath.namespaceName target) (SourcePath.importPath f.name target) := by
    rw [outline_map_line, List.filterMap_map, ← List.filterMap_eq_map']
    refine List.filterMap_congr fun target htarget => ?_
    rw [Function.comp_apply, item?_importLine (h.imports target htarget)]
  have hservices : (outline (f.services.flatMap serviceLines)).filterMap item? =
      f.services.flatMap fun s => (s.methods.map fun m => .methodType (typeOf s m)) ++
        [.serviceClass s.name (s.methods.map fun m => (m.name, s.name ++ m.name))] := by
    rw [outline_flatMap fun s _ => outermost_serviceLines s, List.filterMap_flatMap]
    exact List.flatMap_congr fun s hs => items_serviceLines (h.services s hs)
  have hclients : (outline (f.services.flatMap (clientClass promises))).filterMap item? =
      f.services.map fun s =>
        .client ⟨s.name ++ "Client", s.methods.flatMap fun m => (s.describe m).signatures promises⟩ := by
    rw [outline_flatMap fun s _ => outermost_clientClass promises s, List.filterMap_flatMap,
      List.map_eq_flatMap]
    exact List.flatMap_congr fun s hs => items_clientClass promises (h.services s hs)
  rw [lines, outline_append (outermost_flatMap fun s _ => outermost_clientClass promises s),
    outline_append (outermost_sharedTypes promises),
    outline_append (outermost_flatMap fun s _ => outermost_serviceLines s),
    outline_append (outermost_line _), outline_append (outermost_map_line _ _), outline_line]
  simp only [List.filterMap_append, items_headLines, himports, hservices, hclients, items_sharedTypes]
  rw [List.filterMap_cons, item?_runtime]
  rfl

def declaration (promises : Bool) (f : File) : Declared where
  imports := (f.imports.map fun target =>
    (SourcePath.namespaceName target, SourcePath.importPath f.name target)) ++
      [("grpc", "@improbable-eng/grpc-web")]
  services := f.services.map Stub.described
  interfaces := results promises
  clients := f.services.map fun s =>
    ⟨s.name ++ "Client", s.methods.flatMap fun m => (s.describe m).signatures promises⟩

theorem describe?_methods (s : Stub) (methods : List Method) :
    describe? (methods.map fun m => (m.name, s.name ++ m.name)) (methods.map (typeOf s)) =
      some (methods.map s.describe) := by
  induction methods with
  | nil => rfl
  | cons m methods ih =>
    rw [List.map_cons, List.map_cons, describe?, ih]
    simp [typeOf, Stub.describe]

theorem filterMap_items {α : Type} (select : Item → Option α) (promises : Bool) (f : File) :
    (items promises f).filterMap select =
      (f.imports.filterMap fun target =>
        select (.imported (SourcePath.namespaceName target) (SourcePath.importPath f.name target))) ++
      (select (.imported "grpc" "@improbable-eng/grpc-web")).toList ++
      (f.services.flatMap fun s => (s.methods.filterMap fun m => select (.methodType (typeOf s m))) ++
        (select (.serviceClass s.name (s.methods.map fun m => (m.name, s.name ++ m.name)))).toList) ++
      ((results promises).filterMap fun members => select (.interface members)) ++
      f.services.filterMap fun s => select (.client
        ⟨s.name ++ "Client", s.methods.flatMap fun m => (s.describe m).signatures promises⟩) := by
  simp only [items, List.filterMap_append, List.filterMap_map, List.filterMap_flatMap, filterMap_one]
  rfl

theorem services_items (promises : Bool) (f : File) :
    services (items promises f) = f.services.map Stub.described := by
  have hparts : ((items promises f).filterMap Item.part?).reverse =
      f.services.reverse.flatMap fun s => .inl (s.name, s.methods.map fun m => (m.name, s.name ++ m.name)) ::
        (s.methods.map (typeOf s)).reverse.map .inr := by
    rw [filterMap_items]
    simp [Item.part?, List.reverse_flatMap, Function.comp_def]
  rw [services, hparts, gather_flatMap]
  simp [described?, describe?_methods, Function.comp_def, Stub.described]

theorem declared_items (promises : Bool) (f : File) :
    declared (items promises f) = declaration promises f := by
  simp only [declared, services_items, filterMap_items, declaration]
  simp [Item.imported?, Item.interface?, Item.client?]

theorem read_lines (promises : Bool) {f : File} (h : f.Named) :
    read (render (lines promises f)) = declaration promises f := by
  rw [read, readLines_render (legible_lines promises h), ← outline, items_lines promises h, declared_items]

end ProtoStubs.Service.Web
