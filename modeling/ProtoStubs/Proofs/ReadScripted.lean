import ProtoStubs.Proofs.Scoping
import ProtoStubs.Proofs.ScriptStatements

/-!
# What is read in the script of a client

A script is read part by part, as the declaration is: the modules that it loads, then for each service its
object, the descriptions of its methods, its client, and the functions of the client.
-/

namespace ProtoStubs.Service.WebScript

open Layout Text

variable {s : Stub} {m : Method}

theorem item?_of_tokens {st : Section} {ts : List String} (h : tokens st.head = ts)
    (hassigns : ts[1]? ≠ some "=") :
    item? st = (import? st.head <|> service? st.head <|> client? st.head) := by
  have hsecond : (ts.drop 1).head? ≠ some "=" := by
    rw [List.head?_drop]
    exact hassigns
  rw [item?, h]
  cases hrest : ts.drop 1 with
  | nil => rfl
  | cons sign rest =>
    rw [hrest, List.head?_cons, ne_eq, Option.some.injEq] at hsecond
    split
    · rename_i heq
      exact absurd (List.cons.inj heq).1 hsecond
    · rename_i heq
      exact absurd (List.cons.inj heq).1 hsecond
    · rename_i heq
      exact absurd (List.cons.inj heq).1 hsecond
    · rfl

theorem captures_eq_none {pattern head p t : String} {ps ts : List String}
    (hpattern : tokens pattern = p :: ps) (hhead : tokens head = t :: ts) (hopen : p ≠ "$") (hne : p ≠ t) :
    captures pattern head = none := by
  rw [captures, hpattern, hhead, capture, if_neg hopen, if_neg hne]

theorem tokens_require : tokens "var $ = require(\"$\");" =
    ["var", "$", "=", "require", "(", "\"", "$", "\"", ")", ";"] := tokens_ofList rfl

theorem tokens_requireMember : tokens "var $ = require(\"$\").grpc;" =
    ["var", "$", "=", "require", "(", "\"", "$", "\"", ")", ".grpc", ";"] := tokens_ofList rfl

theorem import?_eq_none {head t : String} {ts : List String} (h : tokens head = t :: ts)
    (hne : "var" ≠ t) : import? head = none := by
  rw [import?, captures_eq_none tokens_require h (by simp) hne,
    captures_eq_none tokens_requireMember h (by simp) hne]
  rfl

theorem service?_eq_none {head t : String} {ts : List String} (h : tokens head = t :: ts) (hne : "var" ≠ t) :
    service? head = none := by
  have hpattern : tokens "var $ = (function () \x7b" = "var" :: ["$", "=", "(", "function", "(", ")", "\x7b"] :=
    tokens_ofList rfl
  rw [service?, captures_eq_none hpattern h (by simp) hne]

theorem client?_eq_none {head t : String} {ts : List String} (h : tokens head = t :: ts)
    (hne : "function" ≠ t) : client? head = none := by
  have hpattern : tokens "function $(serviceHost, options) \x7b" =
      "function" :: ["$", "(", "serviceHost", ",", "options", ")", "\x7b"] := tokens_ofList rfl
  rw [client?, captures_eq_none hpattern h (by simp) hne]

theorem item?_eq_none {head t : String} {ts : List String} (h : tokens head = t :: ts)
    (hassigns : ts.head? ≠ some "=") (hvar : "var" ≠ t) (hfunction : "function" ≠ t) :
    item? ⟨head, []⟩ = none := by
  rw [item?_of_tokens h (by simpa [List.head?_eq_getElem?] using hassigns), import?_eq_none h hvar,
    service?_eq_none h hvar, client?_eq_none h hfunction]
  rfl

theorem item?_close {tail : String} (h : tail = ";" ∨ tail = "());" ∨ tail = "") :
    item? ⟨closeBrace ++ tail, []⟩ = none := by
  have hvalue : tokens ";" = [";"] := tokens_ofList rfl
  have hcall : tokens "());" = ["(", ")", ")", ";"] := tokens_ofList rfl
  have hnothing : tokens "" = [] := rfl
  rcases h with rfl | rfl | rfl
  · exact item?_eq_none (tokens_close hvalue) (by simp) (by simp) (by simp)
  · exact item?_eq_none (tokens_close hcall) (by simp) (by simp) (by simp)
  · exact item?_eq_none (tokens_close hnothing) (by simp) (by simp) (by simp)

section Calls

theorem components_target (hs : IsName s.name) (hm : m.Named) :
    components (s.name ++ "Client.prototype." ++ m.clientName) =
      [s.name ++ "Client", "prototype", m.clientName] := by
  have htarget : s.name ++ "Client.prototype." ++ m.clientName =
      String.intercalate "." [s.name ++ "Client", "prototype", m.clientName] := by
    rw [String.intercalate_cons_cons, String.intercalate_cons_cons, String.intercalate_singleton]
    simp only [String.append_assoc]
    rfl
  have hclient : IsName (s.name ++ "Client") := by
    refine ⟨by simp, ?_⟩
    exact nameChars_append.mpr ⟨hs.2, by decide⟩
  rw [htarget]
  refine components_intercalate (by simp) ?_
  simp only [List.forall_mem_cons]
  exact ⟨hclient, by decide, hm.isName_clientName, by simp⟩

theorem items_clientFunction (hs : IsName s.name) (hm : m.Named) {parameters : String} {ps : List String}
    {body : List Line} {es : List Effect}
    (hparameters : parameters? ("function" :: "(" :: (tokens parameters ++ [")", "\x7b"])) = some ps)
    (hbody : Does body es) :
    (outline (clientFunction s m parameters body)).filterMap item? =
      [.function ⟨s.name ++ "Client", m.clientName, ps, es⟩] := by
  have htarget : IsToken (s.name ++ "Client.prototype." ++ m.clientName) :=
    (hs.isToken.append (by decide)).append hm.clientName.2
  have hline : tokens (s.name ++ "Client.prototype." ++ m.clientName ++ " = function (" ++ parameters ++
      ") " ++ openBrace) = (s.name ++ "Client.prototype." ++ m.clientName) :: "=" :: "function" :: "(" ::
        (tokens parameters ++ [")", "\x7b"]) := by
    have hsign : tokens " = function (" = ["=", "function", "("] := tokens_ofList rfl
    have hclose : tokens ") " = [")"] := tokens_ofList rfl
    rw [tokens_braced, tokens_append_of_opens _ (opens_ofList rfl), hclose,
      tokens_append_of_closes (.append (closes_ofList rfl) _),
      tokens_token_append htarget (opens_ofList rfl), hsign]
    simp
  have hstatements : sections (written body) = outline body := rfl
  rw [clientFunction, outline_braced, List.filterMap_cons, List.filterMap_cons, item?_close (by simp), item?,
    hline]
  simp only [List.drop_succ_cons, List.drop_zero, function?, hline, components_target hs hm, hparameters,
    hstatements, hbody.effects]
  rfl

theorem items_promiseCall (hs : IsName s.name) (hm : m.Named) :
    (outline (promiseCall s m)).filterMap item? = [.function ⟨s.name ++ "Client", m.clientName,
      ["requestMessage", "metadata"],
      [.called "grpc.unary" (s.name ++ "." ++ m.name), .returned .promise]⟩] := by
  have hparameters : tokens "requestMessage, metadata" = ["requestMessage", ",", "metadata"] :=
    tokens_ofList rfl
  have hhost : tokens "var serviceHost = this.serviceHost;" =
      ["var", "serviceHost", "=", "this.serviceHost", ";"] := tokens_ofList rfl
  have hoptions : tokens "var options = this.options;" = ["var", "options", "=", "this.options", ";"] :=
    tokens_ofList rfl
  have hfirst : Does [line "var serviceHost = this.serviceHost;"] [] := by
    apply does_line
    rw [effects, call?_of_tokens hhost, hhost]
    rfl
  have hsecond : Does [line "var options = this.options;"] [] := by
    apply does_line
    rw [effects, call?_of_tokens hoptions, hoptions]
    rfl
  refine items_clientFunction hs hm ?_ ((hfirst.append hsecond).append (does_promise hs hm _))
  rw [hparameters]
  rfl

theorem items_callbackCall (hs : IsName s.name) (hm : m.Named) :
    (outline (callbackCall s m)).filterMap item? = [.function ⟨s.name ++ "Client", m.clientName,
      ["requestMessage", "metadata", "callback"],
      [.shifted 2 1 "callback", .called "grpc.unary" (s.name ++ "." ++ m.name),
        .returned (.object [("cancel", 0)])]⟩] := by
  have hparameters : tokens "requestMessage, metadata, callback" =
      ["requestMessage", ",", "metadata", ",", "callback"] := tokens_ofList rfl
  have hcancel : tokens "cancel: function () " = ["cancel", ":", "function", "(", ")"] := tokens_ofList rfl
  have hmembers := members_braced hcancel rfl (.inr rfl) [line "callback = null;", line "client.close();"]
  refine items_clientFunction hs hm ?_
    ((does_shift.append (does_call "unary" (by decide) hs hm _)).append (does_returnObject hmembers))
  rw [hparameters]
  rfl

theorem items_serverStreamCall (hs : IsName s.name) (hm : m.Named) :
    (outline (serverStreamCall s m)).filterMap item? = [.function ⟨s.name ++ "Client", m.clientName,
      ["requestMessage", "metadata"],
      [.listened "data", .listened "end", .listened "status",
        .called "grpc.invoke" (s.name ++ "." ++ m.name),
        .returned (.object [("on", 2), ("cancel", 0)])]⟩] := by
  have hparameters : tokens "requestMessage, metadata" = ["requestMessage", ",", "metadata"] :=
    tokens_ofList rfl
  refine items_clientFunction hs hm ?_
    (((does_listeners true).append (does_call "invoke" (by decide) hs hm _)).append
      (does_returnObject members_serverStream))
  rw [hparameters]
  rfl

theorem items_clientStreamCall (hasData : Bool) (hs : IsName s.name) (hm : m.Named) :
    (outline (clientStreamCall hasData s m)).filterMap item? = [.function ⟨s.name ++ "Client", m.clientName,
      ["metadata"],
      (if hasData then [.listened "data"] else []) ++ [.listened "end", .listened "status",
        .called "grpc.client" (s.name ++ "." ++ m.name),
        .returned (.object [("on", 2), ("write", 1), ("end", 0), ("cancel", 0)])]⟩] := by
  have hparameters : parameters? ("function" :: "(" :: (tokens "metadata" ++ [")", "\x7b"])) =
      some ["metadata"] := by
    have hmetadata : tokens "metadata" = ["metadata"] := tokens_ofList rfl
    rw [hmetadata]
    rfl
  have hstart : tokens "client.start(metadata);" = ["client.start", "(", "metadata", ")", ";"] :=
    tokens_ofList rfl
  have hend : tokens ("client.onEnd(function (status, statusMessage, trailers) " ++ openBrace) =
      ["client.onEnd", "(", "function", "(", "status", ",", "statusMessage", ",", "trailers", ")", "\x7b"] := by
    rw [tokens_braced, tokens_ofList rfl]
    rfl
  have hmessage : tokens ("client.onMessage(function (message) " ++ openBrace) =
      ["client.onMessage", "(", "function", "(", "message", ")", "\x7b"] := by
    rw [tokens_braced, tokens_ofList rfl]
    rfl
  have honEnd : Does (braced "client.onEnd(function (status, statusMessage, trailers) " endStream ");") [] := by
    refine does_braced ?_ (.inr (.inl rfl))
    rw [effects, call?_of_tokens hend, hend]
    rfl
  have honMessage : Does (if hasData then
      braced "client.onMessage(function (message) " (tellData "message") ");" else []) [] := by
    cases hasData with
    | true =>
      refine does_braced ?_ (.inr (.inl rfl))
      rw [effects, call?_of_tokens hmessage, hmessage]
      rfl
    | false => exact does_nil
  have hline : Does [line "client.start(metadata);"] [] := by
    apply does_line
    rw [effects, call?_of_tokens hstart, hstart]
    rfl
  have hcall := does_call "client" (by decide) hs hm [line "host: this.serviceHost,",
    line "metadata: metadata,", line "transport: this.options.transport"]
  have hbody := (((((does_listeners hasData).append hcall).append honEnd).append honMessage).append
    hline).append (does_returnObject members_stream)
  rw [clientStreamCall, items_clientFunction hs hm hparameters hbody]
  simp

theorem items_clientMember (promises : Bool) (hs : IsName s.name) (hm : m.Named) :
    (outline (clientMember promises s m)).filterMap item? =
      [.function ((s.describe m).function promises)] := by
  unfold clientMember Description.function
  rw [s.shape_describe]
  cases m.shape with
  | unary =>
    cases promises with
    | true => exact items_promiseCall hs hm
    | false => exact items_callbackCall hs hm
  | serverStreaming => exact items_serverStreamCall hs hm
  | clientStreaming => exact items_clientStreamCall false hs hm
  | bidiStreaming => exact items_clientStreamCall true hs hm

end Calls

section Parts

theorem item?_of_named {lead word w rest : String} {body : List (Nat × String)} (hlead : tokens lead = [word])
    (hcloses : Closes lead) (hw : IsToken w) (hrest : Opens rest) :
    item? ⟨lead ++ w ++ rest, body⟩ =
      (import? (lead ++ w ++ rest) <|> service? (lead ++ w ++ rest) <|> client? (lead ++ w ++ rest)) := by
  have htokens : tokens (lead ++ w ++ rest) = word :: w :: tokens rest := by
    rw [tokens_insert hcloses hw hrest, hlead]
    rfl
  have hsign : w ≠ "=" := hw.ne rfl
  exact item?_of_tokens htokens (by simp [hsign])

theorem item?_requireLine {viewer target : String} (h : IsPath target) :
    item? ⟨requireLine viewer target, []⟩ =
      some (.imported (SourcePath.namespaceName target) (SourcePath.importPath viewer target)) := by
  have hname := SourcePath.isToken_namespaceName h
  have hpath := SourcePath.isToken_importPath viewer h
  have hvar : tokens "var " = ["var"] := tokens_ofList rfl
  have hfound : captures "var $ = require(\"$\");" (requireLine viewer target) =
      some [SourcePath.namespaceName target, SourcePath.importPath viewer target] :=
    captures_two hname hpath rfl rfl rfl
  have hline : requireLine viewer target = "var " ++ SourcePath.namespaceName target ++
      (" = require(\"" ++ (SourcePath.importPath viewer target ++ "\");")) := by
    simp only [requireLine, String.append_assoc]
  have hopens : Opens (" = require(\"" ++ (SourcePath.importPath viewer target ++ "\");")) := by
    rw [Opens, String.toList_append]
    rfl
  rw [hline] at hfound ⊢
  rw [item?_of_named hvar (closes_ofList rfl) hname hopens, import?, hfound]
  rfl

theorem item?_runtime : item? ⟨"var grpc = require(\"@improbable-eng/grpc-web\").grpc;", []⟩ =
    some (.imported "grpc" "@improbable-eng/grpc-web") := by
  have htokens : tokens "var grpc = require(\"@improbable-eng/grpc-web\").grpc;" = ["var", "grpc", "=",
      "require", "(", "\"", "@improbable-eng/grpc-web", "\"", ")", ".grpc", ";"] := tokens_ofList rfl
  rw [item?_of_tokens htokens (by simp)]
  simp [import?, captures, htokens, tokens_require, tokens_requireMember, capture]

theorem outermost_serviceObject (s : Stub) : Outermost (serviceObject s) :=
  outermost_blank.append (outermost_braced _ _ _)

theorem items_serviceObject (hs : IsName s.name) :
    (outline (serviceObject s)).filterMap item? = [.service s.name] := by
  have hvar : tokens "var " = ["var"] := tokens_ofList rfl
  have hhead : "var " ++ s.name ++ " = (function () " ++ openBrace =
      "var " ++ s.name ++ " = (function () \x7b" := by
    rw [String.append_assoc]
    rfl
  have htokens : tokens ("var " ++ s.name ++ " = (function () \x7b") =
      ["var"] ++ s.name :: ["=", "(", "function", "(", ")", "\x7b"] := tokens_frame hs.isToken rfl rfl rfl
  have hfound : captures "var $ = (function () \x7b" ("var " ++ s.name ++ " = (function () \x7b") =
      some [s.name] := captures_one hs.isToken rfl rfl
  have himport : import? ("var " ++ s.name ++ " = (function () \x7b") = none := by
    simp [import?, captures, htokens, tokens_require, tokens_requireMember, capture]
  rw [serviceObject, outline_append (outermost_braced _ _ _), outline_blank, outline_braced, hhead,
    List.nil_append, List.filterMap_cons, List.filterMap_cons, item?_close (by simp),
    item?_of_named hvar (closes_ofList rfl) hs.isToken (opens_ofList rfl), himport, service?, hfound]
  rfl

theorem outermost_methodObject (s : Stub) (m : Method) : Outermost (methodObject s m) :=
  outermost_blank.append (outermost_braced _ _ _)

theorem items_methodObject (hs : IsName s.name) (hm : m.Named) :
    (outline (methodObject s m)).filterMap item? = [.method (s.describe m)] := by
  have htarget : IsToken (s.name ++ "." ++ m.name) :=
    (hs.isToken.append (by decide)).append hm.name.isToken.2
  have hsign : tokens " = " = ["="] := tokens_ofList rfl
  have hhead : tokens (s.name ++ "." ++ m.name ++ " = " ++ openBrace) =
      [s.name ++ "." ++ m.name, "=", "\x7b"] := by
    rw [tokens_braced, tokens_token_append htarget (opens_ofList rfl), hsign]
    rfl
  have hopen : captures "$ = \x7b" (s.name ++ "." ++ m.name ++ " = " ++ openBrace) =
      some [s.name ++ "." ++ m.name] := by
    have hpattern : tokens "$ = \x7b" = ["$", "=", "\x7b"] := tokens_ofList rfl
    rw [captures, hpattern, hhead]
    rfl
  have hmethod : captures "methodName: \"$\"," ("methodName: \"" ++ m.name ++ "\",") = some [m.name] :=
    captures_one hm.name.isToken rfl rfl
  have hservice : captures "service: $," ("service: " ++ s.name ++ ",") = some [s.name] :=
    captures_one hs.isToken rfl rfl
  have hclient : captures "requestStream: $," ("requestStream: " ++ m.requestStream ++ ",") =
      some [m.requestStream] := captures_one m.isToken_requestStream rfl rfl
  have hserver : captures "responseStream: $," ("responseStream: " ++ m.responseStream ++ ",") =
      some [m.responseStream] := captures_one m.isToken_responseStream rfl rfl
  have hrequest : captures "requestType: $," ("requestType: " ++ m.requestType ++ ",") =
      some [m.requestType] := captures_one hm.request rfl rfl
  have hresponse : captures "responseType: $" ("responseType: " ++ m.responseType) =
      some [m.responseType] := by
    have hlead : tokens "responseType: " = ["responseType", ":"] := tokens_ofList rfl
    have hpattern : tokens "responseType: $" = ["responseType", ":", "$"] := tokens_ofList rfl
    rw [captures, hpattern, tokens_append_of_closes (closes_ofList rfl), hlead, hm.response.tokens]
    rfl
  rw [methodObject, outline_append (outermost_braced _ _ _), outline_blank, outline_braced, List.nil_append,
    List.filterMap_cons, List.filterMap_cons, item?_close (by simp), item?, hhead]
  simp [method?, hopen, methodPatterns, capturesAll, written, written?, line, hmethod,
    hservice, hclient, hserver, hrequest, hresponse, Stub.describe]

theorem outermost_clientConstructor (s : Stub) : Outermost (clientConstructor s) :=
  outermost_blank.append (outermost_braced _ _ _)

theorem items_clientConstructor (hs : IsName s.name) :
    (outline (clientConstructor s)).filterMap item? = [.client (s.name ++ "Client")] := by
  have hname : IsToken (s.name ++ "Client") := hs.isToken.append (by decide)
  have hfunction : tokens "function " = ["function"] := tokens_ofList rfl
  have hhead : "function " ++ s.name ++ "Client(serviceHost, options) " ++ openBrace =
      "function " ++ (s.name ++ "Client") ++ "(serviceHost, options) \x7b" := by
    simp only [String.append_assoc]
    rfl
  have htokens : tokens ("function " ++ (s.name ++ "Client") ++ "(serviceHost, options) \x7b") =
      ["function"] ++ (s.name ++ "Client") :: ["(", "serviceHost", ",", "options", ")", "\x7b"] :=
    tokens_frame hname rfl rfl rfl
  have hfound : captures "function $(serviceHost, options) \x7b"
      ("function " ++ (s.name ++ "Client") ++ "(serviceHost, options) \x7b") = some [s.name ++ "Client"] :=
    captures_one hname rfl rfl
  rw [clientConstructor, outline_append (outermost_braced _ _ _), outline_blank, outline_braced, hhead,
    List.nil_append, List.filterMap_cons, List.filterMap_cons, item?_close (by simp),
    item?_of_named hfunction (closes_ofList rfl) hname (opens_ofList rfl), import?_eq_none htokens (by simp),
    service?_eq_none htokens (by simp), client?, hfound]
  rfl

theorem item?_exportLine {name : String} (h : IsToken name) :
    item? ⟨"exports." ++ name ++ " = " ++ name ++ ";", []⟩ = some (.exported name) := by
  have htarget : IsToken ("exports." ++ name) := IsToken.append (by decide) h.2
  have hpattern : tokens "$ = $;" = ["$", "=", "$", ";"] := tokens_ofList rfl
  have hsign : tokens " = " = ["="] := tokens_ofList rfl
  have hend : tokens ";" = [";"] := tokens_ofList rfl
  have htokens : tokens ("exports." ++ name ++ " = " ++ name ++ ";") =
      ["exports." ++ name, "=", name, ";"] := by
    rw [tokens_insert (.append (closes_ofList rfl) _) h (opens_ofList rfl),
      tokens_token_append htarget (opens_ofList rfl), hsign, hend]
    rfl
  have hbrace : name ≠ "\x7b" := h.ne rfl
  rw [item?, htokens]
  simp [exported?, captures, htokens, hpattern, capture, hbrace]

def serviceItems (promises : Bool) (s : Stub) : List Item :=
  [.service s.name] ++ (s.methods.map fun m => .method (s.describe m)) ++ [.exported s.name] ++
    [.client (s.name ++ "Client")] ++
    (s.methods.map fun m => .function ((s.describe m).function promises)) ++
    [.exported (s.name ++ "Client")]

theorem outermost_clientMember (promises : Bool) (s : Stub) (m : Method) :
    Outermost (.blank :: clientMember promises s m) := by
  have hmember : Outermost (clientMember promises s m) := by
    unfold clientMember
    cases m.shape with
    | unary =>
      cases promises with
      | true => exact outermost_braced _ _ _
      | false => exact outermost_braced _ _ _
    | serverStreaming => exact outermost_braced _ _ _
    | clientStreaming => exact outermost_braced _ _ _
    | bidiStreaming => exact outermost_braced _ _ _
  exact outermost_blank.append hmember

theorem outermost_export (name : String) : Outermost [.blank, exportLine name] :=
  outermost_blank.append (outermost_line _)

theorem items_export {name : String} (h : IsToken name) :
    (outline [.blank, exportLine name]).filterMap item? = [.exported name] := by
  have houtline : outline [.blank, exportLine name] = [⟨"exports." ++ name ++ " = " ++ name ++ ";", []⟩] := rfl
  rw [houtline, List.filterMap_cons, item?_exportLine h]
  rfl

theorem outermost_methodObjects (s : Stub) : Outermost (s.methods.flatMap (methodObject s)) :=
  outermost_flatMap fun m _ => outermost_methodObject s m

theorem outermost_clientMembers (promises : Bool) (s : Stub) :
    Outermost (s.methods.flatMap fun m => .blank :: clientMember promises s m) :=
  outermost_flatMap fun m _ => outermost_clientMember promises s m

theorem outermost_serviceLines (promises : Bool) (s : Stub) : Outermost (serviceLines promises s) :=
  (((((outermost_serviceObject s).append (outermost_methodObjects s)).append (outermost_export _)).append
    (outermost_clientConstructor s)).append (outermost_clientMembers promises s)).append (outermost_export _)

theorem items_serviceLines (promises : Bool) (hs : s.Named) :
    (outline (serviceLines promises s)).filterMap item? = serviceItems promises s := by
  have hclient : IsToken (s.name ++ "Client") := hs.name.isToken.append (by decide)
  have hmethods : (outline (s.methods.flatMap (methodObject s))).filterMap item? =
      s.methods.map fun m => .method (s.describe m) := by
    rw [outline_flatMap fun m _ => outermost_methodObject s m, List.filterMap_flatMap, List.map_eq_flatMap]
    exact List.flatMap_congr fun m hm => items_methodObject hs.name (hs.methods m hm)
  have hfunctions : (outline (s.methods.flatMap fun m => .blank :: clientMember promises s m)).filterMap item? =
      s.methods.map fun m => .function ((s.describe m).function promises) := by
    rw [outline_flatMap fun m _ => outermost_clientMember promises s m, List.filterMap_flatMap,
      List.map_eq_flatMap]
    exact List.flatMap_congr fun m hm => items_clientMember promises hs.name (hs.methods m hm)
  rw [serviceLines, outline_append (outermost_export _), outline_append (outermost_clientMembers promises s),
    outline_append (outermost_clientConstructor s), outline_append (outermost_export _),
    outline_append (outermost_methodObjects s)]
  simp only [List.filterMap_append, items_serviceObject hs.name, hmethods, items_export hs.name.isToken,
    items_clientConstructor hs.name, hfunctions, items_export hclient]
  rfl

theorem items_headLines (f : File) : (outline (Web.headLines f)).filterMap item? = [] := by
  have hslashes : "//" ≠ "var" ∧ "//" ≠ "function" := by simp
  have hpackage : tokens ("// package: " ++ f.package) = "//" :: "package" :: ":" :: tokens f.package := by
    have hlead : tokens "// package: " = ["//", "package", ":"] := tokens_ofList rfl
    rw [tokens_append_of_closes (closes_ofList rfl), hlead]
    rfl
  have hfile : tokens ("// file: " ++ f.name) = "//" :: "file" :: ":" :: tokens f.name := by
    have hlead : tokens "// file: " = ["//", "file", ":"] := tokens_ofList rfl
    rw [tokens_append_of_closes (closes_ofList rfl), hlead]
    rfl
  have houtline : outline (Web.headLines f) =
      [⟨"// package: " ++ f.package, []⟩, ⟨"// file: " ++ f.name, []⟩] := rfl
  rw [houtline, List.filterMap_cons, List.filterMap_cons,
    item?_eq_none hpackage (by simp) hslashes.1.symm hslashes.2.symm,
    item?_eq_none hfile (by simp) hslashes.1.symm hslashes.2.symm]
  rfl

def items (promises : Bool) (f : File) : List Item :=
  (f.imports.map fun target =>
    .imported (SourcePath.namespaceName target) (SourcePath.importPath f.name target)) ++
  [.imported "grpc" "@improbable-eng/grpc-web"] ++ f.services.flatMap (serviceItems promises)

theorem items_lines (promises : Bool) {f : File} (h : f.Named) :
    (outline (lines promises f)).filterMap item? = items promises f := by
  have himports : (outline (f.imports.map fun target => line (requireLine f.name target))).filterMap item? =
      f.imports.map fun target =>
        .imported (SourcePath.namespaceName target) (SourcePath.importPath f.name target) := by
    rw [outline_map_line, List.filterMap_map, ← List.filterMap_eq_map']
    refine List.filterMap_congr fun target htarget => ?_
    rw [Function.comp_apply, item?_requireLine (h.imports target htarget)]
  have hservices : (outline (f.services.flatMap (serviceLines promises))).filterMap item? =
      f.services.flatMap (serviceItems promises) := by
    rw [outline_flatMap fun s _ => outermost_serviceLines promises s, List.filterMap_flatMap]
    exact List.flatMap_congr fun s hs => items_serviceLines promises (h.services s hs)
  rw [lines, outline_append (outermost_flatMap fun s _ => outermost_serviceLines promises s),
    outline_append (outermost_line _), outline_append (outermost_map_line _ _), outline_line]
  simp only [List.filterMap_append, items_headLines, himports, hservices]
  rw [List.filterMap_cons, item?_runtime]
  rfl

theorem filterMap_serviceItems {α : Type} (select : Item → Option α) (promises : Bool) (s : Stub) :
    (serviceItems promises s).filterMap select =
      (select (.service s.name)).toList ++ (s.methods.filterMap fun m => select (.method (s.describe m))) ++
      (select (.exported s.name)).toList ++ (select (.client (s.name ++ "Client"))).toList ++
      (s.methods.filterMap fun m => select (.function ((s.describe m).function promises))) ++
      (select (.exported (s.name ++ "Client"))).toList := by
  simp only [serviceItems, List.filterMap_append, List.filterMap_map, filterMap_one]
  rfl

theorem filterMap_items {α : Type} (select : Item → Option α) (promises : Bool) (f : File) :
    (items promises f).filterMap select =
      (f.imports.filterMap fun target =>
        select (.imported (SourcePath.namespaceName target) (SourcePath.importPath f.name target))) ++
      (select (.imported "grpc" "@improbable-eng/grpc-web")).toList ++
      f.services.flatMap fun s => (serviceItems promises s).filterMap select := by
  simp only [items, List.filterMap_append, List.filterMap_map, List.filterMap_flatMap,
    filterMap_one]
  rfl

theorem scripted_items (promises : Bool) (f : File) :
    scripted (items promises f) = script promises f := by
  have hservices : (items promises f).filterMap Item.servicePart? =
      f.services.flatMap fun s => .inl s.name :: (s.methods.map s.describe).map .inr := by
    simp [filterMap_items, filterMap_serviceItems, Item.servicePart?, Function.comp_def]
  have hclients : (items promises f).filterMap Item.clientPart? =
      f.services.flatMap fun s => .inl (s.name ++ "Client") ::
        (s.methods.map fun m => (s.describe m).function promises).map .inr := by
    simp [filterMap_items, filterMap_serviceItems, Item.clientPart?, Function.comp_def]
  rw [scripted, hservices, hclients, gather_flatMap, gather_flatMap, script]
  simp [filterMap_items, filterMap_serviceItems, Item.imported?, Item.exported?, Function.comp_def,
    Stub.described]

end Parts

theorem read_lines (promises : Bool) {f : File} (h : f.Named) :
    read (render (lines promises f)) = script promises f := by
  rw [read, readLines_render (legible_lines promises h), ← outline, items_lines promises h, scripted_items]

end ProtoStubs.Service.WebScript
