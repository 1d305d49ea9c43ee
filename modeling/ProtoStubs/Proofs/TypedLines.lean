import Mathlib.Data.List.Flatten
import ProtoStubs.Proofs.StubContext

/-!
# The lines that print types

In the stubs of a service the types of the methods show in some lines only. These have their fixed places, and
all other lines are the same whatever the types are.
-/

namespace ProtoStubs

namespace Layout

/-- Lines with places for others between them. -/
abbrev Frame := List (Option Line)

inductive Fills : Frame → List Line → List Line → Prop
  | nil : Fills [] [] []
  | own (l : Line) {frame : Frame} {puts ls : List Line} (rest : Fills frame puts ls) :
      Fills (some l :: frame) puts (l :: ls)
  | put (l : Line) {frame : Frame} {puts ls : List Line} (rest : Fills frame puts ls) :
      Fills (none :: frame) (l :: puts) (l :: ls)

theorem Fills.append {frame frame' : Frame} {puts puts' ls ls' : List Line} (h : Fills frame puts ls)
    (h' : Fills frame' puts' ls') : Fills (frame ++ frame') (puts ++ puts') (ls ++ ls') := by
  induction h with
  | nil => exact h'
  | own l _ ih => exact .own l ih
  | put l _ ih => exact .put l ih

theorem fills_own (ls : List Line) : Fills (ls.map some) [] ls := by
  induction ls with
  | nil => exact .nil
  | cons l ls ih => exact .own l ih

theorem Fills.flatMap {α : Type} {frame : α → Frame} {puts lines : α → List Line} {xs : List α}
    (h : ∀ x ∈ xs, Fills (frame x) (puts x) (lines x)) :
    Fills (xs.flatMap frame) (xs.flatMap puts) (xs.flatMap lines) := by
  induction xs with
  | nil => exact .nil
  | cons x xs ih =>
    rw [List.forall_mem_cons] at h
    exact h.1.append (ih h.2)

/-- Lines without those that are marked. -/
def unmarked : List Bool → List Line → Frame
  | true :: marks, _ :: ls => none :: unmarked marks ls
  | false :: marks, l :: ls => some l :: unmarked marks ls
  | [], ls => ls.map some
  | _ :: _, [] => []

def marked : List Bool → List Line → List Line
  | true :: marks, l :: ls => l :: marked marks ls
  | false :: marks, _ :: ls => marked marks ls
  | [], _ => []
  | _ :: _, [] => []

theorem fills_unmarked (marks : List Bool) (ls : List Line) :
    Fills (unmarked marks ls) (marked marks ls) ls := by
  induction ls generalizing marks with
  | nil => rcases marks with _ | ⟨_ | _, _⟩ <;> exact .nil
  | cons l ls ih =>
    cases marks with
    | nil => exact fills_own (l :: ls)
    | cons mark marks =>
      cases mark with
      | true => exact .put l (ih marks)
      | false => exact .own l (ih marks)

section TypedOnly

variable {α : Type} {view : α → α} {typed typed' lines lines' : α → List Line}

/-- Lines that show no more of a thing than what its view has too, but for the typed ones among them. -/
def TypedOnly (view : α → α) (typed lines : α → List Line) : Prop :=
  ∃ frame : α → Frame, ∀ x, Fills (frame (view x)) (typed x) (lines x)

theorem TypedOnly.append (h : TypedOnly view typed lines) (h' : TypedOnly view typed' lines') :
    TypedOnly view (fun x => typed x ++ typed' x) fun x => lines x ++ lines' x := by
  obtain ⟨frame, h⟩ := h
  obtain ⟨frame', h'⟩ := h'
  exact ⟨fun v => frame v ++ frame' v, fun x => (h x).append (h' x)⟩

theorem TypedOnly.own (h : ∀ x, lines (view x) = lines x) : TypedOnly view (fun _ => []) lines := by
  refine ⟨fun v => (lines v).map some, fun x => ?_⟩
  simp only [h x]
  exact fills_own (lines x)

theorem TypedOnly.block (marks : α → List Bool)
    (hframe : ∀ x, unmarked (marks (view x)) (lines (view x)) = unmarked (marks x) (lines x))
    (htyped : ∀ x, marked (marks x) (lines x) = typed x) : TypedOnly view typed lines := by
  refine ⟨fun v => unmarked (marks v) (lines v), fun x => ?_⟩
  simp only [hframe x, ← htyped x]
  exact fills_unmarked (marks x) (lines x)

theorem TypedOnly.all (hlength : ∀ x, (lines (view x)).length = (lines x).length) :
    TypedOnly view lines lines := by
  have hfills (ls : List Line) : Fills (.replicate ls.length none) ls ls := by
    induction ls with
    | nil => exact .nil
    | cons l ls ih => exact .put l ih
  refine ⟨fun v => .replicate (lines v).length none, fun x => ?_⟩
  simp only [hlength x]
  exact hfills (lines x)

theorem TypedOnly.flatMap (h : TypedOnly view typed lines) :
    TypedOnly (List.map view) (·.flatMap typed) (·.flatMap lines) := by
  obtain ⟨frame, h⟩ := h
  refine ⟨fun vs => vs.flatMap frame, fun xs => ?_⟩
  simp only [List.flatMap_map]
  exact Fills.flatMap fun x _ => h x

theorem TypedOnly.braced {head : α → String} {body : α → List Line} (hhead : ∀ x, head (view x) = head x)
    (hbody : TypedOnly view typed fun x => indent (body x)) :
    TypedOnly view typed fun x => [.blank] ++ braced (head x) (body x) "" := by
  have hopen : TypedOnly view (fun _ => []) fun x => [.blank, line (head x ++ openBrace)] :=
    .own fun x => by rw [hhead x]
  have hclose : TypedOnly view (fun _ => []) fun _ => [line (closeBrace ++ "")] := .own fun _ => rfl
  have hblock := (hopen.append hbody).append hclose
  simp only [List.nil_append, List.append_nil] at hblock
  exact hblock

end TypedOnly

end Layout

def Schema.Method.untyped (m : Schema.Method) : Schema.Method := { m with inputType := "", outputType := "" }

def Schema.Service.untyped (s : Schema.Service) : Schema.Service :=
  { s with methods := s.methods.map Schema.Method.untyped }

namespace Service

open Layout

/-- A type that stands where none is known. -/
def nowhere : Export where
  kind := .message
  fullName := ""
  package := ""
  fileName := ""

def Method.bare (m : Schema.Method) : Method := ⟨m, nowhere, nowhere⟩

def Stub.bare (s : Schema.Service) : Stub := ⟨s.name, s.fullName, s.methods.map Method.bare⟩

def Method.untyped (m : Method) : Method := .bare m.source.untyped

def Stub.untyped (s : Stub) : Stub := { s with methods := s.methods.map Method.untyped }

theorem File.untyped_of_link {index : TypeIndex} {f : Schema.File} {s : File}
    (h : File.link index f = .ok s) :
    s.services.map Stub.untyped = (f.services.map Schema.Service.untyped).map Stub.bare := by
  obtain ⟨services, hservices, h⟩ := bind_eq_ok.mp h
  cases pure_eq_ok.mp h
  rw [List.map_map]
  refine map_related (mapM_eq_ok.mp hservices) fun x _ t ht => ?_
  obtain ⟨hname, hfullName, hmethods⟩ := Stub.source_of_link ht
  simp only [Stub.untyped, Function.comp_apply, Stub.bare, Schema.Service.untyped, hname, hfullName,
    ← hmethods, List.map_map]
  rfl

def untypedIn (x : Stub × Method) : Stub × Method := (x.1.untyped, x.2.untyped)

theorem typedOnly_methods {typed : Stub → MethodContext → List Line} {lines : Stub → Method → List Line}
    (h : TypedOnly untypedIn (fun x => typed x.1 (x.2.context x.1)) fun x => lines x.1 x.2) :
    TypedOnly Stub.untyped (fun s => s.context.methods.flatMap (typed s)) fun s =>
      s.methods.flatMap (lines s) := by
  obtain ⟨frame, h⟩ := h
  refine ⟨fun v => v.methods.flatMap fun m => frame (v, m), fun s => ?_⟩
  simp only [Stub.untyped, Stub.context, List.flatMap_map]
  exact Fills.flatMap fun m _ => h (s, m)

namespace MethodContext

variable (m : MethodContext)

def webTypeLines : List Line := [
  .text 1 ("readonly requestType: typeof " ++ m.requestType ++ ";"),
  .text 1 ("readonly responseType: typeof " ++ m.responseType ++ ";")]

def webCallLines (promises : Bool) : List Line :=
  let request : Line := .text 2 ("requestMessage: " ++ m.requestType ++ ",")
  let callback : Line := .text 2 ("callback: (error: ServiceError|null, responseMessage: " ++
    m.responseType ++ "|null) => void")
  match m.shape with
  | .unary =>
    if promises then [request, .text 1 ("): Promise<" ++ m.responseType ++ ">;")]
    else [request, callback, request, callback]
  | .serverStreaming => [
    .text 1 (m.clientName ++ "(requestMessage: " ++ m.requestType ++
      ", metadata?: grpc.Metadata): ResponseStream<" ++ m.responseType ++ ">;")]
  | .clientStreaming => [
    .text 1 (m.clientName ++ "(metadata?: grpc.Metadata): RequestStream<" ++ m.requestType ++ ">;")]
  | .bidiStreaming => [
    .text 1 (m.clientName ++ "(metadata?: grpc.Metadata): BidirectionalStream<" ++ m.requestType ++ ", " ++
      m.responseType ++ ">;")]

def scriptTypeLines : List Line := [
  .text 1 ("requestType: " ++ m.requestType ++ ","),
  .text 1 ("responseType: " ++ m.responseType)]

def nodeDefinitionLines (service : String) : List Line := [
  .text 0 ("interface " ++ ("I" ++ service ++ "Service" ++ "_I" ++ m.name) ++
    " extends grpc.MethodDefinition<" ++ m.requestType ++ ", " ++ m.responseType ++ "> " ++ openBrace),
  .text 1 ("requestSerialize: grpc.serialize<" ++ m.requestType ++ ">;"),
  .text 1 ("requestDeserialize: grpc.deserialize<" ++ m.requestType ++ ">;"),
  .text 1 ("responseSerialize: grpc.serialize<" ++ m.responseType ++ ">;"),
  .text 1 ("responseDeserialize: grpc.deserialize<" ++ m.responseType ++ ">;")]

def nodeHandlerLines : List Line := [
  .text 1 (m.clientName ++ ": grpc." ++ m.serverHandler ++ "<" ++ m.requestType ++ ", " ++
    m.responseType ++ ">;")]

def nodeCallLines : List Line :=
  let argument := "argument: " ++ m.requestType
  let callback := "callback: grpc.requestCallback<" ++ m.responseType ++ ">"
  let calls (parameters : List (List String)) (result : String) : List Line := parameters.map fun ps =>
    .text 1 (m.clientName ++ "(" ++ String.intercalate ", " ps ++ "): " ++ result ++ ";")
  match m.shape with
  | .unary => calls [
      [argument, callback],
      [argument, "metadataOrOptions: grpc.Metadata | grpc.CallOptions | null", callback],
      [argument, "metadata: grpc.Metadata | null, options: grpc.CallOptions | null", callback]]
    "grpc.ClientUnaryCall"
  | .serverStreaming => calls [
      [argument, "metadataOrOptions?: grpc.Metadata | grpc.CallOptions | null"],
      [argument, "metadata?: grpc.Metadata | null, options?: grpc.CallOptions | null"]]
    ("grpc.ClientReadableStream<" ++ m.responseType ++ ">")
  | .clientStreaming => calls [
      [callback],
      ["metadataOrOptions: grpc.Metadata | grpc.CallOptions | null", callback],
      ["metadata: grpc.Metadata | null, options: grpc.CallOptions | null", callback]]
    ("grpc.ClientWritableStream<" ++ m.requestType ++ ">")
  | .bidiStreaming => calls [
      ["metadataOrOptions?: grpc.Metadata | grpc.CallOptions | null"],
      ["metadata?: grpc.Metadata | null, options?: grpc.CallOptions | null"]]
    ("grpc.ClientDuplexStream<" ++ m.requestType ++ ", " ++ m.responseType ++ ">")

end MethodContext

section Blocks

theorem typedOnly_methodType :
    TypedOnly untypedIn (fun x => (x.2.context x.1).webTypeLines) fun x => Web.methodType x.1 x.2 := by
  refine .block (fun _ => .replicate 6 false ++ [true, true]) (fun x => ?_) fun _ => rfl
  simp only [Web.methodType, braced, indent, indentBy, List.map_cons, List.cons_append, List.nil_append,
    List.replicate, unmarked]
  rfl

theorem typedOnly_methodObject :
    TypedOnly untypedIn (fun x => (x.2.context x.1).scriptTypeLines) fun x =>
      WebScript.methodObject x.1 x.2 := by
  refine .block (fun _ => .replicate 6 false ++ [true, true]) (fun x => ?_) fun _ => rfl
  simp only [WebScript.methodObject, braced, indent, indentBy, List.map_cons, List.cons_append,
    List.nil_append, List.replicate, unmarked]
  rfl

theorem typedOnly_methodDefinition :
    TypedOnly untypedIn (fun x => (x.2.context x.1).nodeDefinitionLines x.1.name) fun x =>
      Node.methodDefinition x.1 x.2 := by
  refine .block (fun _ => [false, true, false, false, false, true, true, true, true]) (fun x => ?_)
    fun _ => rfl
  simp only [Node.methodDefinition, braced, indent, indentBy, List.map_cons, List.cons_append,
    List.nil_append, unmarked]
  rfl

/-- The lines of a call that print types: of a unary one some, of the others the only one. -/
def webCallMarks (promises : Bool) : Schema.CallShape → List Bool
  | .unary =>
    if promises then [false, true, false, true]
    else [false, true, false, true, false, false, true, true]
  | _ => [true]

theorem typedOnly_webCall (promises : Bool) :
    TypedOnly untypedIn (fun x => (x.2.context x.1).webCallLines promises) fun x =>
      indent (Web.clientMember promises x.2) := by
  refine .block (fun x => webCallMarks promises x.2.shape) ?_ ?_
  · rintro ⟨s, m⟩
    have hshape : (untypedIn (s, m)).2.shape = m.shape := rfl
    simp only [Web.clientMember, hshape]
    cases m.shape with
    | unary =>
      cases promises <;>
        simp only [webCallMarks, Web.promiseMember, Web.callbackMember, indent, indentBy, List.map_cons,
          List.map_nil, List.cons_append, List.nil_append, unmarked, reduceIte, Bool.false_eq_true] <;>
        rfl
    | serverStreaming | clientStreaming | bidiStreaming =>
      simp only [webCallMarks, indent, indentBy, List.map_cons, List.map_nil, unmarked]
  · rintro ⟨s, m⟩
    have hshape : (m.context s).shape = m.shape := rfl
    simp only [Web.clientMember, MethodContext.webCallLines, hshape]
    cases m.shape with
    | unary => cases promises <;> rfl
    | serverStreaming | clientStreaming | bidiStreaming => rfl

theorem typedOnly_nodeHandler :
    TypedOnly untypedIn (fun x => (x.2.context x.1).nodeHandlerLines) fun x => indent [line
      (x.2.clientName ++ ": grpc." ++ Node.serverHandler x.2.shape ++ "<" ++ x.2.requestType ++ ", " ++
        x.2.responseType ++ ">;")] :=
  .all fun x => by simp only [MethodContext.nodeHandlerLines, List.length_cons]

theorem typedOnly_nodeCall :
    TypedOnly untypedIn (fun x => (x.2.context x.1).nodeCallLines) fun x =>
      indent (Node.clientMember x.2) := by
  have hcalls (x : Stub × Method) : indent (Node.clientMember x.2) = (x.2.context x.1).nodeCallLines := by
    have hshape : (x.2.context x.1).shape = x.2.shape := rfl
    simp only [Node.clientMember, Node.overloads, MethodContext.nodeCallLines, hshape]
    cases x.2.shape <;> rfl
  simp only [hcalls]
  refine .all fun x => ?_
  have hshape : ((untypedIn x).2.context (untypedIn x).1).shape = (x.2.context x.1).shape := rfl
  simp only [MethodContext.nodeCallLines, hshape]
  cases (x.2.context x.1).shape <;> simp only [List.length_map, List.length_cons]

end Blocks

section Stubs

variable (promises : Bool)

theorem typedOnly_webService :
    TypedOnly Stub.untyped (fun s => s.context.methods.flatMap (·.webTypeLines)) Web.serviceLines := by
  have hmethods : TypedOnly Stub.untyped (fun s => s.context.methods.flatMap (·.webTypeLines))
      fun s => s.methods.flatMap (Web.methodType s) := typedOnly_methods typedOnly_methodType
  have hclass : TypedOnly Stub.untyped (fun _ => []) Web.serviceClass := by
    refine .own fun s => ?_
    simp only [Web.serviceClass, Stub.untyped, List.map_map]
    rfl
  have hservice := hmethods.append hclass
  simp only [List.append_nil] at hservice
  exact hservice

theorem typedOnly_webClient :
    TypedOnly Stub.untyped (fun s => s.context.methods.flatMap (·.webCallLines promises))
      (Web.clientClass promises) := by
  have hfields : TypedOnly Stub.untyped (fun _ => []) fun _ => indent [
      line "readonly serviceHost: string;", .blank,
      line "constructor(serviceHost: string, options?: grpc.RpcOptions);"] := .own fun _ => rfl
  have hmethods : TypedOnly Stub.untyped (fun s => s.context.methods.flatMap (·.webCallLines promises))
      fun s => s.methods.flatMap fun m => indent (Web.clientMember promises m) :=
    typedOnly_methods (typedOnly_webCall promises)
  have hbody := hfields.append hmethods
  simp only [List.nil_append, indent, indentBy, ← List.map_flatMap, ← List.map_append] at hbody
  exact TypedOnly.braced (fun _ => rfl) hbody

theorem typedOnly_scriptService :
    TypedOnly Stub.untyped (fun s => s.context.methods.flatMap (·.scriptTypeLines))
      (WebScript.serviceLines promises) := by
  have hobjects : TypedOnly Stub.untyped (fun s => s.context.methods.flatMap (·.scriptTypeLines))
      fun s => s.methods.flatMap (WebScript.methodObject s) := typedOnly_methods typedOnly_methodObject
  have hhead : TypedOnly Stub.untyped (fun _ => []) WebScript.serviceObject := .own fun _ => rfl
  have hrest : TypedOnly Stub.untyped (fun _ => []) fun s => [.blank, WebScript.exportLine s.name] ++
      WebScript.clientConstructor s ++
      (s.methods.flatMap fun m => .blank :: WebScript.clientMember promises s m) ++
      [.blank, WebScript.exportLine (s.name ++ "Client")] := by
    refine .own fun s => ?_
    simp only [Stub.untyped, List.flatMap_map]
    rfl
  have hservice := (hhead.append hobjects).append hrest
  simp only [List.nil_append, List.append_nil, ← List.append_assoc] at hservice
  exact hservice

theorem typedOnly_nodeServer :
    TypedOnly Stub.untyped (fun s => s.context.methods.flatMap (·.nodeHandlerLines))
      Node.serverInterface := by
  have hmethods : TypedOnly Stub.untyped (fun s => s.context.methods.flatMap (·.nodeHandlerLines))
      fun s => s.methods.flatMap fun m => indent [line (m.clientName ++ ": grpc." ++
        Node.serverHandler m.shape ++ "<" ++ m.requestType ++ ", " ++ m.responseType ++ ">;")] :=
    typedOnly_methods typedOnly_nodeHandler
  simp only [indent, indentBy, ← List.map_flatMap, ← List.map_eq_flatMap] at hmethods
  exact TypedOnly.braced (fun _ => rfl) hmethods

theorem typedOnly_nodeClient :
    TypedOnly Stub.untyped (fun s => s.context.methods.flatMap (·.nodeCallLines)) Node.clientClass := by
  have hconstructor : TypedOnly Stub.untyped (fun _ => []) fun _ => indent [
      line "constructor(address: string, credentials: grpc.ChannelCredentials, options?: object);"] :=
    .own fun _ => rfl
  have hmethods : TypedOnly Stub.untyped (fun s => s.context.methods.flatMap (·.nodeCallLines))
      fun s => s.methods.flatMap fun m => indent (Node.clientMember m) := typedOnly_methods typedOnly_nodeCall
  have hbody := hconstructor.append hmethods
  simp only [List.nil_append, indent, indentBy, ← List.map_flatMap, ← List.map_append] at hbody
  exact TypedOnly.braced (fun _ => rfl) hbody

theorem typedOnly_nodeService :
    TypedOnly Stub.untyped (fun s => s.context.methods.flatMap (·.nodeDefinitionLines s.name) ++
      s.context.methods.flatMap (·.nodeHandlerLines) ++ s.context.methods.flatMap (·.nodeCallLines))
      Node.serviceLines := by
  have hdefinition : TypedOnly Stub.untyped (fun _ => []) Node.serviceDefinition := by
    refine .own fun s => ?_
    simp only [Node.serviceDefinition, Stub.untyped, List.map_map]
    rfl
  have hmethods : TypedOnly Stub.untyped
      (fun s => s.context.methods.flatMap (·.nodeDefinitionLines s.name))
      fun s => s.methods.flatMap (Node.methodDefinition s) := typedOnly_methods typedOnly_methodDefinition
  have hconstant : TypedOnly Stub.untyped (fun _ => []) fun s =>
      [.blank, line ("export const " ++ s.name ++ "Service: " ++ Node.definitionName s ++ ";")] :=
    .own fun _ => rfl
  have hservice :=
    (((hdefinition.append hmethods).append hconstant).append typedOnly_nodeServer).append typedOnly_nodeClient
  simp only [List.nil_append, List.append_nil] at hservice
  exact hservice

theorem typedOnly_web :
    TypedOnly (List.map Stub.untyped)
      (fun ss => (ss.flatMap fun s => s.context.methods.flatMap (·.webTypeLines)) ++
        ss.flatMap fun s => s.context.methods.flatMap (·.webCallLines promises))
      fun ss => ss.flatMap Web.serviceLines ++ Web.sharedTypes promises ++
        ss.flatMap (Web.clientClass promises) := by
  have hshared : TypedOnly (List.map Stub.untyped) (fun _ => []) fun _ => Web.sharedTypes promises :=
    .own fun _ => rfl
  have hstubs := (typedOnly_webService.flatMap.append hshared).append (typedOnly_webClient promises).flatMap
  simp only [List.append_nil] at hstubs
  exact hstubs

end Stubs

end Service

namespace Artifact

section Body

variable (variant : ServiceVariant)

def typedLines (services : List Service.ServiceContext) : Artifact → List Line
  | .declaration => []
  | .webDeclaration =>
    (services.flatMap fun s => s.methods.flatMap (·.webTypeLines)) ++
      services.flatMap fun s => s.methods.flatMap (·.webCallLines (variant = .grpcPromise))
  | .webScript => services.flatMap fun s => s.methods.flatMap (·.scriptTypeLines)
  | .nodeDeclaration => services.flatMap fun s =>
    s.methods.flatMap (·.nodeDefinitionLines s.name) ++ s.methods.flatMap (·.nodeHandlerLines) ++
      s.methods.flatMap (·.nodeCallLines)

def body (services : List Service.Stub) : Artifact → List Line
  | .declaration => []
  | .webDeclaration => services.flatMap Service.Web.serviceLines ++
    Service.Web.sharedTypes (variant = .grpcPromise) ++
      services.flatMap (Service.Web.clientClass (variant = .grpcPromise))
  | .webScript => services.flatMap (Service.WebScript.serviceLines (variant = .grpcPromise))
  | .nodeDeclaration => services.flatMap Service.Node.serviceLines

/-- Beside its typed lines an artifact tells nothing of the types of the methods. -/
theorem typedOnly_body (a : Artifact) : Layout.TypedOnly (List.map Service.Stub.untyped)
    (fun services => a.typedLines variant (services.map Service.Stub.context)) (a.body variant) := by
  cases a with
  | declaration => exact .own fun _ => rfl
  | webDeclaration =>
    simp only [typedLines, List.flatMap_map]
    exact Service.typedOnly_web _
  | webScript =>
    simp only [typedLines, List.flatMap_map]
    exact (Service.typedOnly_scriptService _).flatMap
  | nodeDeclaration =>
    simp only [typedLines, List.flatMap_map]
    exact Service.typedOnly_nodeService.flatMap

end Body

end Artifact

end ProtoStubs
