import ProtoStubs.Proofs.DeclaredClient
import ProtoStubs.Service.WebScript

/-!
# The lines of a client

The names that a client shows are tokens, so no line of its declaration or of its script is broken off, and
each of them is read as it was written.
-/

namespace ProtoStubs

open Text

namespace SourcePath

theorem mem_stem {path : String} {c : Char} (h : c ∈ (stem path).toList) : c ∈ path.toList := by
  rw [stem, dropTail, String.toList_ofList, dropTailChars] at h
  split at h
  · exact List.mem_of_mem_take h
  · exact h

theorem tokenChars_of_isPath {path : String} (h : IsPath path) : TokenChars path := by
  have hothers : ['.', '/', '-'].all isTokenChar = true := by decide
  intro c hc
  rcases h c hc with hname | hother
  · exact isTokenChar_of_isNameChar hname
  · exact List.all_eq_true.mp hothers c hother

theorem isToken_namespaceName {path : String} (h : IsPath path) : IsToken (namespaceName path) := by
  refine ⟨by simp [namespaceName, moduleSuffix], ?_⟩
  intro c hc
  rw [namespaceName, String.toList_append, List.mem_append, String.toList_ofList] at hc
  rcases hc with hc | hc
  · obtain ⟨d, hd, rfl⟩ := List.mem_map.mp hc
    unfold flattenChar
    split
    · decide
    · exact tokenChars_of_isPath h d (mem_stem hd)
  · have hsuffix : moduleSuffix.toList.all isTokenChar = true := by decide
    exact List.all_eq_true.mp hsuffix c hc

theorem tokenChars_modulePath {path : String} (h : IsPath path) : TokenChars (modulePath path) := by
  have hsuffix : moduleSuffix.toList.all isTokenChar = true := by decide
  intro c hc
  unfold modulePath at hc
  split at hc
  · rw [String.toList_append, List.mem_append] at hc
    rcases hc with hc | hc
    · exact tokenChars_of_isPath h c (mem_stem hc)
    · exact List.all_eq_true.mp hsuffix c hc
  · exact tokenChars_of_isPath h c hc

theorem isToken_toRoot (path : String) : IsToken (toRoot path) := by
  have hstep : ['.', '.', '/'].all isTokenChar = true := by decide
  unfold toRoot
  split
  · decide
  · rename_i depth hdepth
    refine ⟨?_, ?_⟩
    · obtain ⟨n, hn⟩ := Nat.exists_eq_succ_of_ne_zero hdepth
      simp [hn, List.replicate_succ]
    · intro c hc
      rw [String.toList_ofList] at hc
      obtain ⟨step, hmem, hc⟩ := List.mem_flatten.mp hc
      rw [List.eq_of_mem_replicate hmem] at hc
      exact List.all_eq_true.mp hstep c hc

theorem isToken_importPath (viewer : String) {target : String} (h : IsPath target) :
    IsToken (importPath viewer target) := by
  unfold importPath
  split
  · exact IsToken.append (by decide) (tokenChars_modulePath h)
  · exact (isToken_toRoot viewer).append (tokenChars_modulePath h)

end SourcePath

theorem Text.IsName.isToken {name : String} (h : IsName name) : IsToken name := h.2.isToken h.1

namespace Service

open Layout

theorem Method.Named.isName_clientName {m : Method} (h : m.Named) : IsName m.clientName := by
  obtain ⟨hne, hchars⟩ := h.name
  rw [Method.name] at hne hchars
  unfold Method.clientName lowerFirst
  cases hs : m.source.name.toList with
  | nil => exact absurd (String.toList_eq_nil_iff.mp hs) hne
  | cons c rest =>
    rw [NameChars, hs, List.forall_mem_cons] at hchars
    have hlower := isNameChar_toLower hchars.1
    have hfirst : lowerChar c = [c.toLower] := by
      rw [lowerChar, if_pos (toNat_lt_of_isNameChar hchars.1)]
    refine ⟨by simp [hfirst], nameChars_ofList.mpr ?_⟩
    rw [hfirst, List.singleton_append, List.forall_mem_cons]
    exact ⟨hlower, hchars.2⟩

theorem Method.Named.clientName {m : Method} (h : m.Named) : IsToken m.clientName :=
  h.isName_clientName.isToken

theorem Method.isToken_requestStream (m : Method) : IsToken m.requestStream := by
  unfold Method.requestStream
  split <;> decide

theorem Method.isToken_responseStream (m : Method) : IsToken m.responseStream := by
  unfold Method.responseStream
  split <;> decide

namespace Web

variable {s : Stub} {m : Method}

theorem runtime_line : "import " ++ openBrace ++ "grpc" ++ closeBrace ++ " from \"@improbable-eng/grpc-web\";" =
    "import \x7bgrpc\x7d from \"@improbable-eng/grpc-web\";" := rfl

theorem legible_methodType (hs : IsName s.name) (hm : m.Named) : ∀ l ∈ methodType s m, Legible l := by
  have hhead : Legible (line ("type " ++ s.name ++ m.name ++ " = ")) :=
    (((legible_ofList rfl).append hs.isToken.not_mem_newline).append hm.name.isToken.not_mem_newline).append
      (newline_not_mem_ofList rfl)
  have hfield {lead value : String} (hlead : Legible (line lead)) (hvalue : IsToken value) :
      Legible (line (lead ++ value ++ ";")) :=
    (hlead.append hvalue.not_mem_newline).append (newline_not_mem_ofList rfl)
  rw [methodType, List.singleton_append, List.forall_mem_cons]
  refine ⟨trivial, legible_braced hhead ?_ (newline_not_mem_ofList rfl)⟩
  simp only [List.forall_mem_cons]
  exact ⟨legible_ofList rfl, hfield (legible_ofList rfl) hs.isToken,
    hfield (legible_ofList rfl) m.isToken_requestStream, hfield (legible_ofList rfl) m.isToken_responseStream,
    hfield (legible_ofList rfl) hm.request, hfield (legible_ofList rfl) hm.response, by simp⟩

theorem legible_serviceClass (hs : s.Named) : ∀ l ∈ serviceClass s, Legible l := by
  have hname := hs.name.isToken.not_mem_newline
  have hhead : Legible (line ("export class " ++ s.name ++ " ")) :=
    ((legible_ofList rfl).append hname).append (newline_not_mem_ofList rfl)
  rw [serviceClass, List.singleton_append, List.forall_mem_cons]
  refine ⟨trivial, legible_braced hhead ?_ (newline_not_mem_ofList rfl)⟩
  rw [List.forall_mem_cons, List.forall_mem_map]
  refine ⟨legible_ofList rfl, fun m hm => ?_⟩
  have hmethod := (hs.methods m hm).name.isToken.not_mem_newline
  exact (((((legible_ofList rfl).append hmethod).append (newline_not_mem_ofList rfl)).append hname).append
    hmethod).append (newline_not_mem_ofList rfl)

theorem legible_callbackMember (hm : m.Named) {others : List Line} (hothers : ∀ l ∈ others, Legible l) :
    ∀ l ∈ callbackMember m others, Legible l := by
  have hclient := legible_of_isToken hm.clientName
  have hmessage : Legible (line ("requestMessage: " ++ m.requestType ++ ",")) :=
    ((legible_ofList rfl).append hm.request.not_mem_newline).append (newline_not_mem_ofList rfl)
  have hcallback : Legible (line ("callback: (error: ServiceError|null, responseMessage: " ++
      m.responseType ++ "|null) => void")) :=
    ((legible_ofList rfl).append hm.response.not_mem_newline).append (newline_not_mem_ofList rfl)
  have hresult : Legible (line "): UnaryResponse;") := legible_ofList rfl
  have hbody : ∀ l ∈ line ("requestMessage: " ++ m.requestType ++ ",") :: others ++
      [line ("callback: (error: ServiceError|null, responseMessage: " ++ m.responseType ++
        "|null) => void")], Legible l := by
    simp only [List.cons_append, List.forall_mem_cons, List.forall_mem_append]
    exact ⟨hmessage, hothers, hcallback, by simp⟩
  simp only [callbackMember, List.cons_append, List.forall_mem_cons, List.forall_mem_append]
  exact ⟨hclient.append (newline_not_mem_ofList rfl), legible_indent hbody, hresult, by simp⟩

theorem legible_clientMember (promises : Bool) (hm : m.Named) :
    ∀ l ∈ clientMember promises m, Legible l := by
  have hclient := legible_of_isToken hm.clientName
  have hrequest := hm.request.not_mem_newline
  have hresponse := hm.response.not_mem_newline
  unfold clientMember
  cases m.shape with
  | unary =>
    cases promises with
    | true =>
      have hmessage : Legible (line ("requestMessage: " ++ m.requestType ++ ",")) :=
        ((legible_ofList rfl).append hrequest).append (newline_not_mem_ofList rfl)
      have hresult : Legible (line ("): Promise<" ++ m.responseType ++ ">;")) :=
        ((legible_ofList rfl).append hresponse).append (newline_not_mem_ofList rfl)
      have hbody : ∀ l ∈ [line ("requestMessage: " ++ m.requestType ++ ","), line "metadata?: grpc.Metadata"],
          Legible l := by
        simp only [List.forall_mem_cons]
        exact ⟨hmessage, legible_ofList rfl, by simp⟩
      simp only [if_true, promiseMember, List.cons_append, List.forall_mem_cons, List.forall_mem_append]
      exact ⟨hclient.append (newline_not_mem_ofList rfl), legible_indent hbody, hresult, by simp⟩
    | false =>
      rw [if_neg Bool.false_ne_true, List.forall_mem_append]
      refine ⟨legible_callbackMember hm ?_, legible_callbackMember hm (by simp)⟩
      rw [List.forall_mem_singleton]
      exact legible_ofList rfl
  | serverStreaming =>
    rw [List.forall_mem_singleton]
    exact ((((hclient.append (newline_not_mem_ofList rfl)).append hrequest).append
      (newline_not_mem_ofList rfl)).append hresponse).append (newline_not_mem_ofList rfl)
  | clientStreaming =>
    rw [List.forall_mem_singleton]
    exact ((hclient.append (newline_not_mem_ofList rfl)).append hrequest).append (newline_not_mem_ofList rfl)
  | bidiStreaming =>
    rw [List.forall_mem_singleton]
    exact ((((hclient.append (newline_not_mem_ofList rfl)).append hrequest).append
      (newline_not_mem_ofList rfl)).append hresponse).append (newline_not_mem_ofList rfl)

theorem legible_clientClass (promises : Bool) (hs : s.Named) : ∀ l ∈ clientClass promises s, Legible l := by
  have hname := hs.name.isToken.not_mem_newline
  have hhead : Legible (line ("export class " ++ s.name ++ "Client ")) :=
    ((legible_ofList rfl).append hname).append (newline_not_mem_ofList rfl)
  rw [clientClass, List.singleton_append, List.forall_mem_cons]
  refine ⟨trivial, legible_braced hhead ?_ (newline_not_mem_ofList rfl)⟩
  rw [List.forall_mem_append]
  constructor
  · simp only [List.forall_mem_cons]
    exact ⟨legible_ofList rfl, trivial, legible_ofList rfl, by simp⟩
  · intro l hl
    obtain ⟨m, hm, hl⟩ := List.mem_flatMap.mp hl
    exact legible_clientMember promises (hs.methods m hm) l hl

theorem legible_handlerMember {event handler result : String} (hevent : '\n' ∉ event.toList)
    (hhandler : '\n' ∉ handler.toList) (hresult : '\n' ∉ result.toList) :
    Legible (handlerMember event handler result) :=
  ((((((legible_ofList rfl).append hevent).append (newline_not_mem_ofList rfl)).append hhandler).append
    (newline_not_mem_ofList rfl)).append hresult).append (newline_not_mem_ofList rfl)

theorem legible_statusType {name firstField : String} (hname : '\n' ∉ name.toList)
    (hfield : '\n' ∉ firstField.toList) : Legible (statusType name firstField) := by
  have hopen : '\n' ∉ openBrace.toList := by decide
  have hclose : '\n' ∉ closeBrace.toList := by decide
  exact (((((((legible_ofList rfl).append hname).append (newline_not_mem_ofList rfl)).append hopen).append
    (newline_not_mem_ofList rfl)).append hfield).append (newline_not_mem_ofList rfl)).append hclose

theorem legible_unaryResponse : ∀ l ∈ unaryResponse, Legible l := by
  rw [unaryResponse, List.singleton_append, List.forall_mem_cons]
  refine ⟨trivial, legible_braced (legible_ofList rfl) ?_ (newline_not_mem_ofList rfl)⟩
  rw [List.forall_mem_singleton]
  exact legible_ofList rfl

theorem legible_streamTypes : ∀ l ∈ streamTypes, Legible l := by
  have hhandler {event handler result : List Char} (hevent : event.contains '\n' = false)
      (hh : handler.contains '\n' = false) (hresult : result.contains '\n' = false) :
      Legible (handlerMember (.ofList event) (.ofList handler) (.ofList result)) :=
    legible_handlerMember (newline_not_mem_ofList hevent) (newline_not_mem_ofList hh)
      (newline_not_mem_ofList hresult)
  simp only [streamTypes, List.forall_mem_append]
  refine ⟨⟨⟨by simp [Legible], legible_braced (legible_ofList rfl) ?_ (newline_not_mem_ofList rfl)⟩,
    legible_braced (legible_ofList rfl) ?_ (newline_not_mem_ofList rfl)⟩,
    legible_braced (legible_ofList rfl) ?_ (newline_not_mem_ofList rfl)⟩ <;>
    simp only [List.forall_mem_cons]
  · exact ⟨legible_ofList rfl, hhandler rfl rfl rfl, hhandler rfl rfl rfl, hhandler rfl rfl rfl, by simp⟩
  · exact ⟨legible_ofList rfl, legible_ofList rfl, legible_ofList rfl, hhandler rfl rfl rfl,
      hhandler rfl rfl rfl, by simp⟩
  · exact ⟨legible_ofList rfl, legible_ofList rfl, legible_ofList rfl, hhandler rfl rfl rfl,
      hhandler rfl rfl rfl, hhandler rfl rfl rfl, by simp⟩

theorem legible_sharedTypes (promises : Bool) : ∀ l ∈ sharedTypes promises, Legible l := by
  have herror : Legible (statusType "ServiceError" "message") :=
    legible_statusType (newline_not_mem_ofList rfl) (newline_not_mem_ofList rfl)
  have hstatus : Legible (statusType "Status" "details") :=
    legible_statusType (newline_not_mem_ofList rfl) (newline_not_mem_ofList rfl)
  simp only [sharedTypes, List.forall_mem_append, List.forall_mem_cons]
  refine ⟨⟨⟨trivial, herror, hstatus, by simp⟩, ?_⟩, legible_streamTypes⟩
  cases promises with
  | true => simp
  | false => exact legible_unaryResponse

theorem legible_headLines {f : File} (h : f.Named) : ∀ l ∈ headLines f, Legible l := by
  have hpackage : Legible (line ("// package: " ++ f.package)) := (legible_ofList rfl).append h.package
  have hfile : Legible (line ("// file: " ++ f.name)) := (legible_ofList rfl).append h.name
  simp only [headLines, List.forall_mem_cons]
  exact ⟨hpackage, hfile, trivial, by simp⟩

theorem legible_lines (promises : Bool) {f : File} (h : f.Named) : ∀ l ∈ lines promises f, Legible l := by
  have himport (target : String) (htarget : target ∈ f.imports) :
      Legible (line (importLine f.name target)) := by
    have hpath := h.imports target htarget
    exact ((((legible_ofList rfl).append (SourcePath.isToken_namespaceName hpath).not_mem_newline).append
      (newline_not_mem_ofList rfl)).append (SourcePath.isToken_importPath _ hpath).not_mem_newline).append
        (newline_not_mem_ofList rfl)
  have hruntime : Legible (line ("import " ++ openBrace ++ "grpc" ++ closeBrace ++
      " from \"@improbable-eng/grpc-web\";")) := by
    rw [runtime_line]
    exact legible_ofList rfl
  have hservices : ∀ l ∈ f.services.flatMap serviceLines, Legible l := by
    intro l hl
    obtain ⟨s, hs, hl⟩ := List.mem_flatMap.mp hl
    rw [serviceLines, List.mem_append, List.mem_flatMap] at hl
    rcases hl with ⟨m, hm, hl⟩ | hl
    · exact legible_methodType (h.services s hs).name ((h.services s hs).methods m hm) l hl
    · exact legible_serviceClass (h.services s hs) l hl
  have hclients : ∀ l ∈ f.services.flatMap (clientClass promises), Legible l := by
    intro l hl
    obtain ⟨s, hs, hl⟩ := List.mem_flatMap.mp hl
    exact legible_clientClass promises (h.services s hs) l hl
  simp only [lines, List.forall_mem_append, List.forall_mem_cons, List.forall_mem_map]
  exact ⟨⟨⟨⟨⟨legible_headLines h, himport⟩, hruntime, by simp⟩, hservices⟩,
    legible_sharedTypes promises⟩, hclients⟩

end Web

namespace WebScript

variable {s : Stub} {m : Method}

theorem legible_serviceObject (hs : s.Named) : ∀ l ∈ serviceObject s, Legible l := by
  have hname := hs.name.isToken.not_mem_newline
  have hopen : '\n' ∉ openBrace.toList := by decide
  have hclose : '\n' ∉ closeBrace.toList := by decide
  have hhead : Legible (line ("var " ++ s.name ++ " = (function () ")) :=
    ((legible_ofList rfl).append hname).append (newline_not_mem_ofList rfl)
  have hfunction : Legible (line ("function " ++ s.name ++ "() " ++ openBrace ++ closeBrace)) :=
    ((((legible_ofList rfl).append hname).append (newline_not_mem_ofList rfl)).append hopen).append hclose
  have hfullName : Legible (line (s.name ++ ".serviceName = \"" ++ s.fullName ++ "\";")) :=
    (((legible_of_isToken hs.name.isToken).append (newline_not_mem_ofList rfl)).append hs.fullName).append
      (newline_not_mem_ofList rfl)
  have hreturn : Legible (line ("return " ++ s.name ++ ";")) :=
    ((legible_ofList rfl).append hname).append (newline_not_mem_ofList rfl)
  rw [serviceObject, List.singleton_append, List.forall_mem_cons]
  refine ⟨trivial, legible_braced hhead ?_ (newline_not_mem_ofList rfl)⟩
  simp only [List.forall_mem_cons]
  exact ⟨hfunction, hfullName, hreturn, by simp⟩

theorem legible_methodObject (hs : IsName s.name) (hm : m.Named) : ∀ l ∈ methodObject s m, Legible l := by
  have hname := hs.isToken.not_mem_newline
  have hmethod := hm.name.isToken.not_mem_newline
  have hhead : Legible (line (s.name ++ "." ++ m.name ++ " = ")) :=
    (((legible_of_isToken hs.isToken).append (newline_not_mem_ofList rfl)).append hmethod).append
      (newline_not_mem_ofList rfl)
  have hquoted : Legible (line ("methodName: \"" ++ m.name ++ "\",")) :=
    ((legible_ofList rfl).append hmethod).append (newline_not_mem_ofList rfl)
  have hfield {lead value : String} (hlead : Legible (line lead)) (hvalue : IsToken value) :
      Legible (line (lead ++ value ++ ",")) :=
    (hlead.append hvalue.not_mem_newline).append (newline_not_mem_ofList rfl)
  have hresponse : Legible (line ("responseType: " ++ m.responseType)) :=
    (legible_ofList rfl).append hm.response.not_mem_newline
  rw [methodObject, List.singleton_append, List.forall_mem_cons]
  refine ⟨trivial, legible_braced hhead ?_ (newline_not_mem_ofList rfl)⟩
  simp only [List.forall_mem_cons]
  exact ⟨hquoted, hfield (legible_ofList rfl) hs.isToken, hfield (legible_ofList rfl) m.isToken_requestStream,
    hfield (legible_ofList rfl) m.isToken_responseStream, hfield (legible_ofList rfl) hm.request, hresponse,
    by simp⟩

theorem legible_clientConstructor (hs : IsName s.name) : ∀ l ∈ clientConstructor s, Legible l := by
  have hopen : '\n' ∉ openBrace.toList := by decide
  have hclose : '\n' ∉ closeBrace.toList := by decide
  have hhead : Legible (line ("function " ++ s.name ++ "Client(serviceHost, options) ")) :=
    ((legible_ofList rfl).append hs.isToken.not_mem_newline).append (newline_not_mem_ofList rfl)
  have hoptions : Legible (line ("this.options = options || " ++ openBrace ++ closeBrace ++ ";")) :=
    (((legible_ofList rfl).append hopen).append hclose).append (newline_not_mem_ofList rfl)
  rw [clientConstructor, List.singleton_append, List.forall_mem_cons]
  refine ⟨trivial, legible_braced hhead ?_ (newline_not_mem_ofList rfl)⟩
  simp only [List.forall_mem_cons]
  exact ⟨legible_ofList rfl, hoptions, by simp⟩

theorem legible_exportLine {name : String} (h : '\n' ∉ name.toList) : Legible (exportLine name) :=
  ((((legible_ofList rfl).append h).append (newline_not_mem_ofList rfl)).append h).append
    (newline_not_mem_ofList rfl)

section Calls

theorem newline_not_mem_runtimeCall {function : String} (hfunction : '\n' ∉ function.toList)
    (hs : IsName s.name) (hm : m.Named) : '\n' ∉ (runtimeCall function s m).toList := by
  have hname := hs.isToken.not_mem_newline
  have hmethod := hm.name.isToken.not_mem_newline
  simp [runtimeCall, hfunction, hname, hmethod]

theorem legible_clientFunction (hs : IsName s.name) (hm : m.Named) {parameters : String} {body : List Line}
    (hparameters : '\n' ∉ parameters.toList) (hbody : ∀ l ∈ body, Legible l) :
    ∀ l ∈ clientFunction s m parameters body, Legible l := by
  have hhead : Legible (line (s.name ++ "Client.prototype." ++ m.clientName ++ " = function (" ++ parameters ++
      ") ")) :=
    (((((legible_of_isToken hs.isToken).append (newline_not_mem_ofList rfl)).append
      hm.clientName.not_mem_newline).append (newline_not_mem_ofList rfl)).append hparameters).append
        (newline_not_mem_ofList rfl)
  exact legible_braced hhead hbody (newline_not_mem_ofList rfl)

theorem legible_call (hs : IsName s.name) (hm : m.Named) {function : String} {body : List Line}
    (hfunction : '\n' ∉ function.toList) (hbody : ∀ l ∈ body, Legible l) :
    ∀ l ∈ braced ("var client = " ++ runtimeCall function s m) body ");", Legible l :=
  legible_braced ((legible_ofList rfl).append (newline_not_mem_runtimeCall hfunction hs hm)) hbody
    (newline_not_mem_ofList rfl)

theorem legible_unlessOk {failed otherwise : List Line} (hfailed : ∀ l ∈ failed, Legible l)
    (hotherwise : ∀ l ∈ otherwise, Legible l) :
    ∀ l ∈ bracedElse unlessOk (makeError ++ failed) otherwise, Legible l := by
  refine legible_bracedElse (legible_ofList rfl) ?_ hotherwise
  simp only [makeError, List.forall_mem_append, List.forall_mem_cons]
  exact ⟨⟨legible_ofList rfl, legible_ofList rfl, legible_ofList rfl, by simp⟩, hfailed⟩

theorem legible_one {content : String} (h : Legible (line content)) : ∀ l ∈ [line content], Legible l := by
  rw [List.forall_mem_singleton]
  exact h

theorem legible_promiseCall (hs : IsName s.name) (hm : m.Named) : ∀ l ∈ promiseCall s m, Legible l := by
  have hunary : Legible (line (runtimeCall "unary" s m)) := by
    have hname := hs.isToken.not_mem_newline
    have hmethod := hm.name.isToken.not_mem_newline
    exact (((((legible_ofList rfl).append (newline_not_mem_ofList rfl)).append (newline_not_mem_ofList rfl)).append
      hname).append (newline_not_mem_ofList rfl)).append hmethod |>.append (newline_not_mem_ofList rfl)
  have hfirst : ∀ l ∈ [line "var serviceHost = this.serviceHost;", line "var options = this.options;"],
      Legible l := by
    simp only [List.forall_mem_cons]
    exact ⟨legible_ofList rfl, legible_ofList rfl, by simp⟩
  have hsettings : ∀ l ∈ [line "request: requestMessage,", line "host: serviceHost,",
      line "metadata: metadata,", line "transport: options.transport,", line "debug: options.debug,"],
      Legible l := by
    simp only [List.forall_mem_cons]
    exact ⟨legible_ofList rfl, legible_ofList rfl, legible_ofList rfl, legible_ofList rfl, legible_ofList rfl,
      by simp⟩
  have hend : ∀ l ∈ braced "onEnd: function (response) " (bracedElse unlessOk
      (makeError ++ [line "reject(err);"]) [line "resolve(response.message);"]) "", Legible l :=
    legible_braced (legible_ofList rfl)
      (legible_unlessOk (legible_one (legible_ofList rfl)) (legible_one (legible_ofList rfl)))
      (newline_not_mem_ofList rfl)
  refine legible_clientFunction hs hm (newline_not_mem_ofList rfl) (List.forall_mem_append.mpr ⟨hfirst, ?_⟩)
  exact legible_braced (legible_ofList rfl) (legible_braced hunary
    (List.forall_mem_append.mpr ⟨hsettings, hend⟩) (newline_not_mem_ofList rfl)) (newline_not_mem_ofList rfl)

theorem legible_clientSettings : ∀ l ∈ clientSettings, Legible l := by
  simp only [clientSettings, List.forall_mem_cons]
  exact ⟨legible_ofList rfl, legible_ofList rfl, legible_ofList rfl, legible_ofList rfl, legible_ofList rfl,
    by simp⟩

theorem legible_callbackCall (hs : IsName s.name) (hm : m.Named) : ∀ l ∈ callbackCall s m, Legible l := by
  have hshort : ∀ l ∈ braced "if (arguments.length === 2) " [line "callback = arguments[1];"] "", Legible l :=
    legible_braced (legible_ofList rfl) (legible_one (legible_ofList rfl)) (newline_not_mem_ofList rfl)
  have hanswer : ∀ l ∈ braced "if (callback) " (bracedElse unlessOk (makeError ++ [line "callback(err, null);"])
      [line "callback(null, response.message);"]) "", Legible l :=
    legible_braced (legible_ofList rfl)
      (legible_unlessOk (legible_one (legible_ofList rfl)) (legible_one (legible_ofList rfl)))
      (newline_not_mem_ofList rfl)
  have hcancel : ∀ l ∈ braced "cancel: function () " [line "callback = null;", line "client.close();"] "",
      Legible l := by
    refine legible_braced (legible_ofList rfl) ?_ (newline_not_mem_ofList rfl)
    simp only [List.forall_mem_cons]
    exact ⟨legible_ofList rfl, legible_ofList rfl, by simp⟩
  refine legible_clientFunction hs hm (newline_not_mem_ofList rfl) ?_
  simp only [List.forall_mem_append]
  refine ⟨⟨hshort, legible_call hs hm (newline_not_mem_ofList rfl) ?_⟩,
    legible_braced (legible_ofList rfl) hcancel (newline_not_mem_ofList rfl)⟩
  rw [List.forall_mem_append]
  exact ⟨legible_clientSettings, legible_braced (legible_ofList rfl) hanswer (newline_not_mem_ofList rfl)⟩

theorem legible_listeners (hasData : Bool) : ∀ l ∈ listeners hasData, Legible l := by
  refine legible_braced (legible_ofList rfl) ?_ (newline_not_mem_ofList rfl)
  simp only [List.forall_mem_append, List.forall_mem_cons]
  refine ⟨?_, legible_ofList rfl, legible_ofList rfl, by simp⟩
  cases hasData with
  | true => exact legible_one (legible_ofList rfl)
  | false => simp

theorem legible_tellEnd {event : String} (h : '\n' ∉ event.toList) : ∀ l ∈ tellEnd event, Legible l := by
  have hopen : '\n' ∉ openBrace.toList := by decide
  have hclose : '\n' ∉ closeBrace.toList := by decide
  have hhead : Legible (line ("listeners." ++ event ++ ".forEach(function (handler) ")) :=
    ((legible_ofList rfl).append h).append (newline_not_mem_ofList rfl)
  have hbody : Legible (line ("handler(" ++ openBrace ++
      " code: status, details: statusMessage, metadata: trailers " ++ closeBrace ++ ");")) :=
    ((((legible_ofList rfl).append hopen).append (newline_not_mem_ofList rfl)).append hclose).append
      (newline_not_mem_ofList rfl)
  exact legible_braced hhead (legible_one hbody) (newline_not_mem_ofList rfl)

theorem legible_tellData {message : String} (h : '\n' ∉ message.toList) :
    ∀ l ∈ tellData message, Legible l := by
  have hbody : Legible (line ("handler(" ++ message ++ ");")) :=
    ((legible_ofList rfl).append h).append (newline_not_mem_ofList rfl)
  exact legible_braced (legible_ofList rfl) (legible_one hbody) (newline_not_mem_ofList rfl)

theorem legible_endStream : ∀ l ∈ endStream, Legible l := by
  simp only [endStream, List.forall_mem_append]
  exact ⟨⟨legible_tellEnd (newline_not_mem_ofList rfl), legible_tellEnd (newline_not_mem_ofList rfl)⟩,
    legible_one (legible_ofList rfl)⟩

theorem legible_addHandler : ∀ l ∈ addHandler, Legible l := by
  refine legible_braced (legible_ofList rfl) ?_ (newline_not_mem_ofList rfl)
  simp only [List.forall_mem_cons]
  exact ⟨legible_ofList rfl, legible_ofList rfl, by simp⟩

theorem legible_cancelStream : ∀ l ∈ cancelStream, Legible l := by
  refine legible_braced (legible_ofList rfl) ?_ (newline_not_mem_ofList rfl)
  simp only [List.forall_mem_cons]
  exact ⟨legible_ofList rfl, legible_ofList rfl, by simp⟩

theorem legible_serverStreamCall (hs : IsName s.name) (hm : m.Named) :
    ∀ l ∈ serverStreamCall s m, Legible l := by
  have hmessage : ∀ l ∈ braced "onMessage: function (responseMessage) " (tellData "responseMessage") ",",
      Legible l :=
    legible_braced (legible_ofList rfl) (legible_tellData (newline_not_mem_ofList rfl))
      (newline_not_mem_ofList rfl)
  have hend : ∀ l ∈ braced "onEnd: function (status, statusMessage, trailers) " endStream "", Legible l :=
    legible_braced (legible_ofList rfl) legible_endStream (newline_not_mem_ofList rfl)
  refine legible_clientFunction hs hm (newline_not_mem_ofList rfl) ?_
  simp only [List.forall_mem_append]
  refine ⟨⟨legible_listeners true, legible_call hs hm (newline_not_mem_ofList rfl) ?_⟩,
    legible_braced (legible_ofList rfl) ?_ (newline_not_mem_ofList rfl)⟩
  · simp only [List.forall_mem_append]
    exact ⟨⟨legible_clientSettings, hmessage⟩, hend⟩
  · rw [List.forall_mem_append]
    exact ⟨legible_addHandler, legible_cancelStream⟩

theorem legible_clientStreamCall (hasData : Bool) (hs : IsName s.name) (hm : m.Named) :
    ∀ l ∈ clientStreamCall hasData s m, Legible l := by
  have hsettings : ∀ l ∈ [line "host: this.serviceHost,", line "metadata: metadata,",
      line "transport: this.options.transport"], Legible l := by
    simp only [List.forall_mem_cons]
    exact ⟨legible_ofList rfl, legible_ofList rfl, legible_ofList rfl, by simp⟩
  have hmessage : ∀ l ∈ (if hasData then
      braced "client.onMessage(function (message) " (tellData "message") ");" else []), Legible l := by
    cases hasData with
    | true =>
      exact legible_braced (legible_ofList rfl) (legible_tellData (newline_not_mem_ofList rfl))
        (newline_not_mem_ofList rfl)
    | false => simp
  have hwrite : ∀ l ∈ braced "write: function (requestMessage) "
      [line "client.send(requestMessage);", line "return this;"] ",", Legible l := by
    refine legible_braced (legible_ofList rfl) ?_ (newline_not_mem_ofList rfl)
    simp only [List.forall_mem_cons]
    exact ⟨legible_ofList rfl, legible_ofList rfl, by simp⟩
  have hend : ∀ l ∈ braced "end: function () " [line "client.finishSend();"] ",", Legible l :=
    legible_braced (legible_ofList rfl) (legible_one (legible_ofList rfl)) (newline_not_mem_ofList rfl)
  refine legible_clientFunction hs hm (newline_not_mem_ofList rfl) ?_
  simp only [List.forall_mem_append]
  refine ⟨⟨⟨⟨⟨legible_listeners hasData, legible_call hs hm (newline_not_mem_ofList rfl) hsettings⟩,
    legible_braced (legible_ofList rfl) legible_endStream (newline_not_mem_ofList rfl)⟩, hmessage⟩,
    legible_one (legible_ofList rfl)⟩, legible_braced (legible_ofList rfl) ?_ (newline_not_mem_ofList rfl)⟩
  simp only [List.forall_mem_append]
  exact ⟨⟨⟨legible_addHandler, hwrite⟩, hend⟩, legible_cancelStream⟩

theorem legible_clientMember (promises : Bool) (hs : IsName s.name) (hm : m.Named) :
    ∀ l ∈ clientMember promises s m, Legible l := by
  unfold clientMember
  cases m.shape with
  | unary =>
    cases promises with
    | true => exact legible_promiseCall hs hm
    | false => exact legible_callbackCall hs hm
  | serverStreaming => exact legible_serverStreamCall hs hm
  | clientStreaming => exact legible_clientStreamCall false hs hm
  | bidiStreaming => exact legible_clientStreamCall true hs hm

end Calls

theorem legible_serviceLines (promises : Bool) (hs : s.Named) : ∀ l ∈ serviceLines promises s, Legible l := by
  have hname := hs.name.isToken.not_mem_newline
  have hclient : '\n' ∉ (s.name ++ "Client").toList :=
    (hs.name.isToken.append (by decide)).not_mem_newline
  have hobjects : ∀ l ∈ s.methods.flatMap (methodObject s), Legible l := by
    intro l hl
    obtain ⟨m, hm, hl⟩ := List.mem_flatMap.mp hl
    exact legible_methodObject hs.name (hs.methods m hm) l hl
  have hmembers : ∀ l ∈ s.methods.flatMap (fun m => .blank :: clientMember promises s m), Legible l := by
    intro l hl
    obtain ⟨m, hm, hl⟩ := List.mem_flatMap.mp hl
    rcases List.mem_cons.mp hl with rfl | hl
    · trivial
    · exact legible_clientMember promises hs.name (hs.methods m hm) l hl
  simp only [serviceLines, List.forall_mem_append, List.forall_mem_cons]
  exact ⟨⟨⟨⟨⟨legible_serviceObject hs, hobjects⟩, trivial, legible_exportLine hname, by simp⟩,
    legible_clientConstructor hs.name⟩, hmembers⟩, trivial, legible_exportLine hclient, by simp⟩

theorem legible_lines (promises : Bool) {f : File} (h : f.Named) : ∀ l ∈ lines promises f, Legible l := by
  have hrequire (target : String) (htarget : target ∈ f.imports) :
      Legible (line (requireLine f.name target)) := by
    have hpath := h.imports target htarget
    exact ((((legible_ofList rfl).append (SourcePath.isToken_namespaceName hpath).not_mem_newline).append
      (newline_not_mem_ofList rfl)).append (SourcePath.isToken_importPath _ hpath).not_mem_newline).append
        (newline_not_mem_ofList rfl)
  have hservices : ∀ l ∈ f.services.flatMap (serviceLines promises), Legible l := by
    intro l hl
    obtain ⟨s, hs, hl⟩ := List.mem_flatMap.mp hl
    exact legible_serviceLines promises (h.services s hs) l hl
  simp only [lines, List.forall_mem_append, List.forall_mem_map]
  exact ⟨⟨⟨Web.legible_headLines h, hrequire⟩, legible_one (legible_ofList rfl)⟩, hservices⟩

end WebScript

end Service

end ProtoStubs
