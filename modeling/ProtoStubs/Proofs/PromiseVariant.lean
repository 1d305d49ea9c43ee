import ProtoStubs.Proofs.PrintedMessages
import ProtoStubs.Proofs.SameClient

/-!
# The promise variant of a client

A stub is cut into pieces: a member for each method, the type of what a unary call returns, and what stands
around these. Both variants of a client have the same pieces in the same places, up to the members of unary
methods, which are never the same, and the type of their results, which only the variant with callbacks has.
-/

namespace ProtoStubs

theorem Text.append_ne_of_differ {a b : String} (h : differ a.toList b.toList = true) (s t : String) :
    a ++ s ≠ b ++ t := by
  intro heq
  have hlead := startsWith_append a s
  rw [heq, startsWith_of_differ h] at hlead
  cases hlead

theorem forall₂_flatMap {α β : Type} {R : β → β → Prop} {xs : List α} {f g : α → List β}
    (h : ∀ x ∈ xs, List.Forall₂ R (f x) (g x)) : List.Forall₂ R (xs.flatMap f) (xs.flatMap g) := by
  induction xs with
  | nil => exact .nil
  | cons x xs ih =>
    rw [List.forall_mem_cons] at h
    exact List.rel_append h.1 (ih h.2)

def Schema.File.calls (f : File) : List (String × Method) :=
  f.services.flatMap fun s => s.methods.map fun m => (s.name, m)

namespace Service

open Layout
open Text (startsWith)

/-- The stubs for a browser, whether or not the file has services. -/
def webService (promises : Bool) (index : TypeIndex) (f : Schema.File) :
    Except GenerationError (List OutputFile) := do
  return webFiles promises (← File.link index f)

theorem files_eq_webService {index : TypeIndex} {parameters : Parameters} {f : Schema.File} {promises : Bool}
    (hvariant : parameters.service = if promises then .grpcPromise else .grpcWeb) (hservices : f.services ≠ []) :
    files index parameters f = webService promises index f := by
  have hsome : parameters.service ≠ .none := by
    rw [hvariant]
    cases promises <;> decide
  rw [files_eq_link hsome hservices, webService]
  cases promises <;> simp only [File.outputs, hvariant] <;> rfl

def File.calls (f : File) : List (String × Schema.Method) :=
  f.services.flatMap fun s => s.methods.map fun m => (s.name, m.source)

theorem File.calls_of_link {index : TypeIndex} {f : Schema.File} {s : File} (h : File.link index f = .ok s) :
    s.calls = f.calls := by
  obtain ⟨stubs, hstubs, h⟩ := bind_eq_ok.mp h
  cases pure_eq_ok.mp h
  have hnames : stubs.map (fun s => s.methods.map fun m => (s.name, m.source)) =
      f.services.map fun s => s.methods.map fun m => (s.name, m) := by
    refine map_related (mapM_eq_ok.mp hstubs) fun x _ stub hstub => ?_
    obtain ⟨hname, -, hmethods⟩ := Stub.source_of_link hstub
    rw [hname, ← hmethods, List.map_map]
    rfl
  rw [calls, Schema.File.calls, List.flatMap_def, List.flatMap_def, hnames]

/-- A piece of a stub. -/
inductive Piece
  | member (service : String) (method : Schema.Method) (content : String)
  | unaryResponse (content : String)
  | around (content : String)
  deriving DecidableEq

namespace Piece

def content : Piece → String
  | .member _ _ content => content
  | .unaryResponse content => content
  | .around content => content

def call? : Piece → Option (String × Schema.Method)
  | .member service method _ => some (service, method)
  | .unaryResponse _ => none
  | .around _ => none

/-- The pieces in one place of the two variants. Only the members of unary methods differ, and all of these do. -/
inductive Agrees : Piece → Piece → Prop
  | around (content : String) : Agrees (.around content) (.around content)
  | streaming (service : String) {m : Schema.Method}
    (hm : m.clientStreaming = true ∨ m.serverStreaming = true) (content : String) :
    Agrees (.member service m content) (.member service m content)
  | unary (service : String) {m : Schema.Method}
    (hm : m.clientStreaming = false ∧ m.serverStreaming = false) {content content' : String}
    (hne : content ≠ content') : Agrees (.member service m content) (.member service m content')

def text (pieces : List Piece) : String := String.join (pieces.map content)

theorem text_cons (p : Piece) (pieces : List Piece) : text (p :: pieces) = p.content ++ text pieces := by
  rw [text, List.map_cons, String.join_cons, text]

theorem text_append (xs ys : List Piece) : text (xs ++ ys) = text xs ++ text ys := by
  rw [text, List.map_append, String.join_append, text, text]

theorem text_flatMap {α : Type} {xs : List α} {pieces : α → List Piece} {lines : α → List Line}
    (h : ∀ x ∈ xs, text (pieces x) = render (lines x)) : text (xs.flatMap pieces) = render (xs.flatMap lines) := by
  induction xs with
  | nil => rfl
  | cons x xs ih =>
    rw [List.forall_mem_cons] at h
    rw [List.flatMap_cons, List.flatMap_cons, text_append, render_append, h.1, ih h.2]

/-- Where all methods have streams, the variants are the same. -/
theorem eq_of_agrees {xs ys : List Piece} (h : List.Forall₂ Agrees xs ys)
    (hstreams : ∀ c ∈ xs.filterMap call?, c.2.clientStreaming = true ∨ c.2.serverStreaming = true) : xs = ys := by
  induction h with
  | nil => rfl
  | @cons x y xs ys hxy _ ih =>
    cases hxy with
    | around content => rw [ih hstreams]
    | streaming service hm content => rw [ih fun c hmem => hstreams c (List.mem_cons_of_mem _ hmem)]
    | @unary service m hm _ _ hne =>
      have hm' := hstreams (service, m) List.mem_cons_self
      rw [hm.1, hm.2] at hm'
      exact absurd hm' (by decide)

/-- The pieces of a text. Every call of the file has a member of its own, in the order of the file, which begins
as the members for this call do. -/
structure Cut (calls : List (String × Schema.Method)) (lead : String → Schema.Method → String)
    (pieces : List Piece) (t : String) : Prop where
  text : text pieces = t
  calls : pieces.filterMap call? = calls
  lead : ∀ service m content, .member service m content ∈ pieces → startsWith (lead service m) content = true

end Piece

open Piece (Agrees Cut text)

theorem Method.shape_eq_unary {m : Method} :
    m.shape = .unary ↔ m.source.clientStreaming = false ∧ m.source.serverStreaming = false := by
  rw [shape, Schema.Method.shape]
  cases m.source.clientStreaming <;> cases m.source.serverStreaming <;> simp

theorem agrees_member (service : String) {m : Method} {content content' : String}
    (hunary : m.shape = .unary → content ≠ content') (hstreams : m.shape ≠ .unary → content = content') :
    Agrees (.member service m.source content) (.member service m.source content') := by
  by_cases h : m.shape = .unary
  · exact .unary service (Method.shape_eq_unary.mp h) (hunary h)
  · rw [← hstreams h]
    rw [Method.shape_eq_unary, not_and_or, Bool.not_eq_false, Bool.not_eq_false] at h
    exact .streaming service h content

namespace Web

def commonLines : List Line := [
  line "readonly serviceHost: string;", .blank,
  line "constructor(serviceHost: string, options?: grpc.RpcOptions);"]

def memberText (promises : Bool) (m : Method) : String := render (indent (clientMember promises m))

def clientPieces (promises : Bool) (s : Stub) : List Piece :=
  .around (render ([.blank, line ("export class " ++ s.name ++ "Client " ++ openBrace)] ++ indent commonLines)) ::
  s.methods.map (fun m => .member s.name m.source (memberText promises m)) ++ [.around (render [line closeBrace])]

def leadingPieces (f : File) : List Piece := [
  .around (render (headLines f ++ (f.imports.map fun target => line (importLine f.name target)) ++
    [line ("import " ++ openBrace ++ "grpc" ++ closeBrace ++ " from \"@improbable-eng/grpc-web\";")] ++
    f.services.flatMap serviceLines ++
    [.blank, statusType "ServiceError" "message", statusType "Status" "details"]))]

def trailingPieces (promises : Bool) (f : File) : List Piece :=
  .around (render streamTypes) :: f.services.flatMap (clientPieces promises)

def pieces (promises : Bool) (f : File) : List Piece :=
  leadingPieces f ++ (if promises then [] else [.unaryResponse (render unaryResponse)]) ++
    trailingPieces promises f

theorem text_clientPieces (promises : Bool) (s : Stub) :
    text (clientPieces promises s) = render (clientClass promises s) := by
  have hmembers : text (s.methods.map fun m => .member s.name m.source (memberText promises m)) =
      render (indent (s.methods.flatMap (clientMember promises))) := by
    rw [List.map_eq_flatMap, indent, indentBy, List.map_flatMap]
    exact Piece.text_flatMap fun m _ => by simp [text, memberText, Piece.content, indent, indentBy]
  have hbody : indent (commonLines ++ s.methods.flatMap (clientMember promises)) =
      indent commonLines ++ indent (s.methods.flatMap (clientMember promises)) := indentBy_append 1 _ _
  have hclass : clientClass promises s = [.blank] ++ braced ("export class " ++ s.name ++ "Client ")
      (commonLines ++ s.methods.flatMap (clientMember promises)) "" := rfl
  rw [clientPieces, List.cons_append, Piece.text_cons, Piece.text_append, hmembers, hclass, braced, hbody]
  simp [Piece.content, text, render_append, render_cons, String.append_assoc]

theorem text_pieces (promises : Bool) (f : File) : text (pieces promises f) = render (lines promises f) := by
  have hclients : text (f.services.flatMap (clientPieces promises)) =
      render (f.services.flatMap (clientClass promises)) :=
    Piece.text_flatMap fun s _ => text_clientPieces promises s
  have hnone : render [] = "" := rfl
  rw [pieces, Piece.text_append, Piece.text_append, trailingPieces, Piece.text_cons, hclients]
  cases promises <;>
    simp [leadingPieces, text, Piece.content, lines, sharedTypes, render_append, render_cons, hnone,
      String.append_assoc]

theorem call?_pieces (promises : Bool) (f : File) : (pieces promises f).filterMap Piece.call? = f.calls := by
  have hclients : (f.services.flatMap (clientPieces promises)).filterMap Piece.call? = f.calls := by
    rw [List.filterMap_flatMap, File.calls]
    refine List.flatMap_congr fun s _ => ?_
    simp [clientPieces, List.filterMap_cons, Piece.call?, List.filterMap_map, Function.comp_def]
  cases promises <;> simpa [pieces, leadingPieces, trailingPieces, List.filterMap_cons, Piece.call?] using hclients

def memberLead (_service : String) (m : Schema.Method) : String := "  " ++ Text.lowerFirst m.name ++ "("

theorem exists_clientMember_eq (promises : Bool) (m : Method) :
    ∃ rest ls, clientMember promises m = line (m.clientName ++ ("(" ++ rest)) :: ls := by
  unfold clientMember
  cases m.shape with
  | unary => cases promises <;> exact ⟨"", _, rfl⟩
  | serverStreaming =>
    have hopen : "(requestMessage: " = "(" ++ "requestMessage: " := rfl
    exact ⟨_, [], by simp only [hopen, String.append_assoc]; rfl⟩
  | clientStreaming =>
    have hopen : "(metadata?: grpc.Metadata): RequestStream<" =
        "(" ++ "metadata?: grpc.Metadata): RequestStream<" := rfl
    exact ⟨_, [], by simp only [hopen, String.append_assoc]; rfl⟩
  | bidiStreaming =>
    have hopen : "(metadata?: grpc.Metadata): BidirectionalStream<" =
        "(" ++ "metadata?: grpc.Metadata): BidirectionalStream<" := rfl
    exact ⟨_, [], by simp only [hopen, String.append_assoc]; rfl⟩

theorem startsWith_memberText (promises : Bool) (service : String) (m : Method) :
    startsWith (memberLead service m.source) (memberText promises m) = true := by
  obtain ⟨rest, ls, hlines⟩ := exists_clientMember_eq promises m
  have htext : memberText promises m = memberLead service m.source ++ (rest ++ "\n" ++ render (indent ls)) := by
    have hindent : indent (line (m.clientName ++ ("(" ++ rest)) :: ls) =
        .text 1 (m.clientName ++ ("(" ++ rest)) :: indent ls := rfl
    have hblanks : Line.indentation 1 = "  " := rfl
    rw [memberText, hlines, hindent, render_cons, Line.render, hblanks, memberLead, Method.clientName]
    simp only [String.append_assoc]
  rw [htext]
  exact Text.startsWith_append _ _

theorem memberText_congr {m : Method} (h : m.shape ≠ .unary) : memberText false m = memberText true m := by
  rw [memberText, memberText, clientMember, clientMember]
  cases hshape : m.shape with
  | unary => exact absurd hshape h
  | serverStreaming => rfl
  | clientStreaming => rfl
  | bidiStreaming => rfl

theorem memberText_ne {m : Method} (h : m.shape = .unary) : memberText false m ≠ memberText true m := by
  have hcallback : ∃ rest, indent (clientMember false m) = .text 1 (m.clientName ++ "(") ::
      .text 2 ("requestMessage: " ++ m.requestType ++ ",") :: .text 2 "metadata: grpc.Metadata," :: rest := by
    rw [clientMember, h]
    exact ⟨_, rfl⟩
  have hpromise : ∃ rest, indent (clientMember true m) = .text 1 (m.clientName ++ "(") ::
      .text 2 ("requestMessage: " ++ m.requestType ++ ",") :: .text 2 "metadata?: grpc.Metadata" :: rest := by
    rw [clientMember, h]
    exact ⟨_, rfl⟩
  obtain ⟨rest, hcallback⟩ := hcallback
  obtain ⟨rest', hpromise⟩ := hpromise
  intro heq
  simp only [memberText, hcallback, hpromise, render_cons, String.append_right_inj] at heq
  exact Text.append_ne_of_differ (by decide) _ _ heq

theorem cut_pieces (promises : Bool) (f : File) :
    Cut f.calls memberLead (pieces promises f) (render (lines promises f)) := by
  refine ⟨text_pieces promises f, call?_pieces promises f, fun service m content hmem => ?_⟩
  have hclients : .member service m content ∈ f.services.flatMap (clientPieces promises) := by
    cases promises <;> simpa [pieces, leadingPieces, trailingPieces] using hmem
  obtain ⟨s, -, hmem⟩ := List.mem_flatMap.mp hclients
  simp only [clientPieces, List.cons_append, List.mem_cons, List.mem_append, List.mem_map, reduceCtorEq,
    List.not_mem_nil, or_false, false_or, Piece.member.injEq] at hmem
  obtain ⟨m, -, rfl, rfl, rfl⟩ := hmem
  exact startsWith_memberText promises s.name m

theorem agrees_trailingPieces (f : File) :
    List.Forall₂ Agrees (trailingPieces false f) (trailingPieces true f) := by
  refine .cons (.around _) (forall₂_flatMap fun s _ => .cons (.around _) (List.rel_append ?_ ?_))
  · rw [List.forall₂_map_left_iff, List.forall₂_map_right_iff, List.forall₂_same]
    exact fun m _ => agrees_member s.name memberText_ne memberText_congr
  · exact .cons (.around _) .nil

end Web

namespace WebScript

def memberText (promises : Bool) (s : Stub) (m : Method) : String := render (clientMember promises s m)

def servicePieces (promises : Bool) (s : Stub) : List Piece :=
  .around (render (serviceObject s ++ s.methods.flatMap (methodObject s) ++ [.blank, exportLine s.name] ++
    clientConstructor s)) ::
  (s.methods.flatMap fun m =>
    [.around (render [.blank]), .member s.name m.source (memberText promises s m)]) ++
  [.around (render [.blank, exportLine (s.name ++ "Client")])]

def pieces (promises : Bool) (f : File) : List Piece :=
  .around (render (Web.headLines f ++ (f.imports.map fun target => line (requireLine f.name target)) ++
    [line "var grpc = require(\"@improbable-eng/grpc-web\").grpc;"])) ::
  f.services.flatMap (servicePieces promises)

theorem text_servicePieces (promises : Bool) (s : Stub) :
    text (servicePieces promises s) = render (serviceLines promises s) := by
  have hmembers : text (s.methods.flatMap fun m =>
      [.around (render [.blank]), .member s.name m.source (memberText promises s m)]) =
        render (s.methods.flatMap fun m => .blank :: clientMember promises s m) :=
    Piece.text_flatMap fun m _ => by simp [text, memberText, Piece.content, render]
  rw [servicePieces, List.cons_append, Piece.text_cons, Piece.text_append, hmembers, serviceLines]
  simp [Piece.content, text, render_append, render_cons, String.append_assoc]

theorem text_pieces (promises : Bool) (f : File) : text (pieces promises f) = render (lines promises f) := by
  have hservices : text (f.services.flatMap (servicePieces promises)) =
      render (f.services.flatMap (serviceLines promises)) :=
    Piece.text_flatMap fun s _ => text_servicePieces promises s
  rw [pieces, Piece.text_cons, hservices, Piece.content, lines]
  simp only [render_append]

theorem call?_pieces (promises : Bool) (f : File) : (pieces promises f).filterMap Piece.call? = f.calls := by
  have hservices : (f.services.flatMap (servicePieces promises)).filterMap Piece.call? = f.calls := by
    rw [List.filterMap_flatMap, File.calls]
    refine List.flatMap_congr fun s _ => ?_
    simp [servicePieces, List.filterMap_cons, Piece.call?, List.filterMap_flatMap, List.map_eq_flatMap]
  simpa [pieces, List.filterMap_cons, Piece.call?] using hservices

def memberLead (service : String) (m : Schema.Method) : String :=
  service ++ "Client.prototype." ++ Text.lowerFirst m.name ++ " = function ("

theorem render_clientFunction (s : Stub) (m : Method) (parameters : String) (body : List Line) :
    render (clientFunction s m parameters body) =
      memberLead s.name m.source ++ (parameters ++ ") \x7b\n" ++ (render (indent body) ++ "\x7d;\n")) := by
  have hopen (t : String) : ") " ++ (openBrace ++ ("\n" ++ t)) = ") \x7b\n" ++ t := by
    simp only [← String.append_assoc]
    rfl
  have hclose : Layout.render [line (closeBrace ++ ";")] = "\x7d;\n" := rfl
  have hblanks : Line.indentation 0 = "" := rfl
  rw [clientFunction, braced, render_append, hclose, render_cons, line, Line.render, hblanks, String.empty_append,
    memberLead, Method.clientName]
  simp only [String.append_assoc, hopen]

theorem exists_clientMember_eq (promises : Bool) (s : Stub) (m : Method) :
    ∃ parameters body, clientMember promises s m = clientFunction s m parameters body := by
  unfold clientMember
  cases m.shape with
  | unary => cases promises <;> exact ⟨_, _, rfl⟩
  | serverStreaming => exact ⟨_, _, rfl⟩
  | clientStreaming => exact ⟨_, _, rfl⟩
  | bidiStreaming => exact ⟨_, _, rfl⟩

theorem startsWith_memberText (promises : Bool) (s : Stub) (m : Method) :
    startsWith (memberLead s.name m.source) (memberText promises s m) = true := by
  obtain ⟨parameters, body, hlines⟩ := exists_clientMember_eq promises s m
  rw [memberText, hlines, render_clientFunction]
  exact Text.startsWith_append _ _

theorem memberText_congr {s : Stub} {m : Method} (h : m.shape ≠ .unary) :
    memberText false s m = memberText true s m := by
  rw [memberText, memberText, clientMember, clientMember]
  cases hshape : m.shape with
  | unary => exact absurd hshape h
  | serverStreaming => rfl
  | clientStreaming => rfl
  | bidiStreaming => rfl

theorem memberText_ne {s : Stub} {m : Method} (h : m.shape = .unary) :
    memberText false s m ≠ memberText true s m := by
  have hcallback : clientMember false s m = callbackCall s m := by
    rw [clientMember, h]
    rfl
  have hpromise : clientMember true s m = promiseCall s m := by
    rw [clientMember, h]
    rfl
  intro heq
  rw [memberText, memberText, hcallback, hpromise, callbackCall, promiseCall, render_clientFunction,
    render_clientFunction, String.append_right_inj] at heq
  exact Text.append_ne_of_differ (by decide) _ _ heq

theorem cut_pieces (promises : Bool) (f : File) :
    Cut f.calls memberLead (pieces promises f) (render (lines promises f)) := by
  refine ⟨text_pieces promises f, call?_pieces promises f, fun service m content hmem => ?_⟩
  have hservices : .member service m content ∈ f.services.flatMap (servicePieces promises) := by
    simpa [pieces] using hmem
  obtain ⟨s, -, hmem⟩ := List.mem_flatMap.mp hservices
  simp only [servicePieces, List.cons_append, List.mem_cons, List.mem_append, List.mem_flatMap, reduceCtorEq,
    List.not_mem_nil, or_false, false_or, Piece.member.injEq] at hmem
  obtain ⟨m, -, rfl, rfl, rfl⟩ := hmem
  exact startsWith_memberText promises s m

theorem agrees_pieces (f : File) : List.Forall₂ Agrees (pieces false f) (pieces true f) := by
  refine .cons (.around _) (forall₂_flatMap fun s _ => .cons (.around _) (List.rel_append ?_ ?_))
  · exact forall₂_flatMap fun m _ =>
      .cons (.around _) (.cons (agrees_member s.name memberText_ne memberText_congr) .nil)
  · exact .cons (.around _) .nil

end WebScript

/-- The variant with promises has all that the variant with callbacks has, but for the members of unary methods
and the type of their results. -/
theorem promise_variant {index : TypeIndex} {f : Schema.File} {outputs : List OutputFile}
    (h : webService false index f = .ok outputs) :
    ∃ s outputs' declaration script declaration' script',
      File.link index f = .ok s ∧ webService true index f = .ok outputs' ∧
      outputs = [⟨SourcePath.modulePath f.name ++ "_service" ++ ".d.ts", declaration⟩,
        ⟨SourcePath.modulePath f.name ++ "_service" ++ ".js", script⟩] ∧
      outputs' = [⟨SourcePath.modulePath f.name ++ "_service" ++ ".d.ts", declaration'⟩,
        ⟨SourcePath.modulePath f.name ++ "_service" ++ ".js", script'⟩] ∧
      Cut f.calls Web.memberLead (Web.leadingPieces s ++
          .unaryResponse "\ninterface UnaryResponse \x7b\n  cancel(): void;\n\x7d\n" :: Web.trailingPieces false s)
        declaration ∧
      Cut f.calls Web.memberLead (Web.leadingPieces s ++ Web.trailingPieces true s) declaration' ∧
      List.Forall₂ Agrees (Web.leadingPieces s ++ Web.trailingPieces false s)
        (Web.leadingPieces s ++ Web.trailingPieces true s) ∧
      Cut f.calls WebScript.memberLead (WebScript.pieces false s) script ∧
      Cut f.calls WebScript.memberLead (WebScript.pieces true s) script' ∧
      List.Forall₂ Agrees (WebScript.pieces false s) (WebScript.pieces true s) ∧
      ((∀ c ∈ f.calls, c.2.clientStreaming = true ∨ c.2.serverStreaming = true) →
        script = script' ∧ ∃ before after,
          declaration = before ++ "\ninterface UnaryResponse \x7b\n  cancel(): void;\n\x7d\n" ++ after ∧
          declaration' = before ++ after) ∧
      ∀ mode, f.services ≠ [] → files index { service := .grpcWeb, mode } f = .ok outputs ∧
        files index { service := .grpcPromise, mode } f = .ok outputs' := by
  have hfiles (mode : Mode) (hservices : f.services ≠ []) :
      files index { service := .grpcWeb, mode } f = webService false index f ∧
        files index { service := .grpcPromise, mode } f = webService true index f :=
    ⟨files_eq_webService rfl hservices, files_eq_webService rfl hservices⟩
  rw [h] at hfiles
  obtain ⟨s, hs, h⟩ := bind_eq_ok.mp h
  cases pure_eq_ok.mp h
  have hname : s.name = f.name := (File.imports_of_link hs).1
  have hpromises : webService true index f = .ok (webFiles true s) := by
    rw [webService, hs]
    rfl
  have hunary : render Web.unaryResponse = "\ninterface UnaryResponse \x7b\n  cancel(): void;\n\x7d\n" := rfl
  have hcallback := Web.cut_pieces false s
  have hpromise := Web.cut_pieces true s
  have hscript := WebScript.cut_pieces false s
  have hscript' := WebScript.cut_pieces true s
  have hagrees : List.Forall₂ Agrees (Web.leadingPieces s ++ Web.trailingPieces false s)
      (Web.leadingPieces s ++ Web.trailingPieces true s) :=
    List.rel_append (.cons (.around _) .nil) (Web.agrees_trailingPieces s)
  rw [File.calls_of_link hs] at hcallback hpromise hscript hscript'
  simp only [Web.pieces, if_true, Bool.false_eq_true, if_false, List.append_nil, List.append_assoc,
    List.singleton_append, hunary] at hcallback hpromise
  rw [hpromises] at hfiles
  refine ⟨s, _, _, _, _, _, hs, hpromises, by rw [webFiles, hname], by rw [webFiles, hname], hcallback, hpromise,
    hagrees, hscript, hscript', WebScript.agrees_pieces s, fun hstreams => ⟨?_, ?_⟩, hfiles⟩
  · rw [← hscript.text, ← hscript'.text,
      Piece.eq_of_agrees (WebScript.agrees_pieces s) (by rw [hscript.calls]; exact hstreams)]
  · -- Before the type of the results stands no member, so the calls are those of the pieces after it.
    have hcalls : (Web.trailingPieces false s).filterMap Piece.call? = f.calls := by
      rw [← hcallback.calls]
      rfl
    have htrailing := Piece.eq_of_agrees (Web.agrees_trailingPieces s) (by rw [hcalls]; exact hstreams)
    refine ⟨text (Web.leadingPieces s), text (Web.trailingPieces false s), ?_, ?_⟩
    · rw [← hcallback.text, Piece.text_append, Piece.text_cons, Piece.content, String.append_assoc]
    · rw [← hpromise.text, Piece.text_append, htrailing]

theorem talkFile_variants :
    ∃ s declaration script declaration' script', File.link talkIndex talkFile = .ok s ∧
      webService false talkIndex talkFile =
        .ok [⟨"a/talk_pb_service.d.ts", declaration⟩, ⟨"a/talk_pb_service.js", script⟩] ∧
      webService true talkIndex talkFile =
        .ok [⟨"a/talk_pb_service.d.ts", declaration'⟩, ⟨"a/talk_pb_service.js", script'⟩] ∧
      text (WebScript.pieces false s) = script ∧ text (WebScript.pieces true s) = script' ∧
      ((WebScript.pieces false s).filterMap Piece.call?).map (fun c => (c.1, c.2.name)) =
        [("Talk", "Ask"), ("Talk", "Listen"), ("Talk", "Tell"), ("Talk", "Chat")] ∧
      List.Forall₂ Agrees (WebScript.pieces false s) (WebScript.pieces true s) := by
  obtain ⟨outputs, houtputs⟩ : Succeeds (webService false talkIndex talkFile) := by decide
  obtain ⟨s, _, declaration, script, declaration', script', hlink, hpromises, rfl, rfl, -, -, -, hscript,
    hscript', hagrees, -, -⟩ := promise_variant houtputs
  refine ⟨s, declaration, script, declaration', script', hlink, houtputs, hpromises, hscript.text, hscript'.text,
    ?_, hagrees⟩
  rw [hscript.calls]
  rfl

end Service

end ProtoStubs
