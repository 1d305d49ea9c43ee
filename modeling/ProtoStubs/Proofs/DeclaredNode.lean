import ProtoStubs.Proofs.DeclaredClient
import ProtoStubs.Service.Node

/-!
# Reading the declaration of a node client and server

Of a declaration, the imports are read and all that is declared for each service: the members of its
definition, the definitions of its methods, the functions of its server and the calls of its client. The
definition of a service comes first, and what follows it up to the next one is declared for the same service.
-/

namespace ProtoStubs.Service.Node

open Layout Text
open Web (DeclaredClient)

structure MethodDefinition where
  name : String
  request : String
  response : String
  path : String
  requestStream : String
  responseStream : String
  requestSerialize : String
  requestDeserialize : String
  responseSerialize : String
  responseDeserialize : String
  deriving DecidableEq

structure Handler where
  name : String
  type : String
  request : String
  response : String
  deriving DecidableEq

inductive Item
  | imported (name path : String)
  | service (name : String) (members : List (String × String))
  | method (definition : MethodDefinition)
  | constant (name type : String)
  | server (name : String) (handlers : List Handler)
  | client (calls : DeclaredClient)
  deriving DecidableEq

structure DeclaredService where
  name : String
  members : List (String × String)
  methods : List MethodDefinition
  constants : List (String × String)
  servers : List (String × List Handler)
  clients : List DeclaredClient
  deriving DecidableEq

structure Declared where
  imports : List (String × String)
  services : List DeclaredService
  deriving DecidableEq

def import? (head : String) : Option Item :=
  match captures "import * as $ from \"$\";" head with
  | some [name, path] => some (.imported name path)
  | _ => none

def member? (content : String) : Option (String × String) :=
  match captures "$: $;" content with
  | some [name, type] => some (name, type)
  | _ => none

def service? (s : Section) : Option Item :=
  match captures "interface $ extends grpc.ServiceDefinition<grpc.UntypedServiceImplementation> \x7b"
    s.head with
  | some [name] => some (.service name (s.body.filterMap fun l => member? l.2))
  | _ => none

def methodPatterns : List String := [
  "path: \"$\";", "requestStream: $;", "responseStream: $;", "requestSerialize: grpc.serialize<$>;",
  "requestDeserialize: grpc.deserialize<$>;", "responseSerialize: grpc.serialize<$>;",
  "responseDeserialize: grpc.deserialize<$>;"]

def method? (s : Section) : Option Item :=
  match captures "interface $ extends grpc.MethodDefinition<$, $> \x7b" s.head,
    capturesAll methodPatterns s.body with
  | some [name, request, response], some [path, requestStream, responseStream, requestSerialize,
      requestDeserialize, responseSerialize, responseDeserialize] =>
    some (.method ⟨name, request, response, path, requestStream, responseStream, requestSerialize,
      requestDeserialize, responseSerialize, responseDeserialize⟩)
  | _, _ => none

def constant? (head : String) : Option Item :=
  match captures "export const $: $;" head with
  | some [name, type] => some (.constant name type)
  | _ => none

def handler? (content : String) : Option Handler :=
  match captures "$: $<$, $>;" content with
  | some [name, type, request, response] => some ⟨name, type, request, response⟩
  | _ => none

def server? (s : Section) : Option Item :=
  match captures "export interface $ extends grpc.UntypedServiceImplementation \x7b" s.head with
  | some [name] => some (.server name (s.body.filterMap fun l => handler? l.2))
  | _ => none

def client? (s : Section) : Option Item :=
  match captures "export class $ extends grpc.Client \x7b" s.head with
  | some [name] => some (.client ⟨name, Web.signatures s.body⟩)
  | _ => none

def item? (s : Section) : Option Item :=
  match (tokens s.head).head? with
  | some "import" => import? s.head
  | some "interface" => service? s <|> method? s
  | some "export" => constant? s.head <|> server? s <|> client? s
  | _ => none

def Item.imported? : Item → Option (String × String)
  | .imported name path => some (name, path)
  | _ => none

def Item.part? : Item → Option ((String × List (String × String)) ⊕ Item)
  | .imported _ _ => none
  | .service name members => some (.inl (name, members))
  | i => some (.inr i)

def Item.method? : Item → Option MethodDefinition
  | .method definition => some definition
  | _ => none

def Item.constant? : Item → Option (String × String)
  | .constant name type => some (name, type)
  | _ => none

def Item.server? : Item → Option (String × List Handler)
  | .server name handlers => some (name, handlers)
  | _ => none

def Item.client? : Item → Option DeclaredClient
  | .client calls => some calls
  | _ => none

def declaredService (name : String) (members : List (String × String)) (details : List Item) :
    DeclaredService where
  name := name
  members := members
  methods := details.filterMap Item.method?
  constants := details.filterMap Item.constant?
  servers := details.filterMap Item.server?
  clients := details.filterMap Item.client?

def declared (items : List Item) : Declared where
  imports := items.filterMap Item.imported?
  services := (gather (items.filterMap Item.part?)).2.map fun p => declaredService p.1.1 p.1.2 p.2

def read (t : String) : Declared := declared ((sections (readLines t)).filterMap item?)

/-- The calls of a client. Signatures of one name that follow one another are one call. -/
def calls (signatures : List Signature) : List (List Signature) :=
  signatures.splitBy fun σ τ => σ.name == τ.name

def handlerType : Schema.CallShape → String
  | .unary => "grpc.handleUnaryCall"
  | .serverStreaming => "grpc.handleServerStreamingCall"
  | .clientStreaming => "grpc.handleClientStreamingCall"
  | .bidiStreaming => "grpc.handleBidiStreamingCall"

def resultType (request response : String) : Schema.CallShape → List String
  | .unary => ["grpc.ClientUnaryCall"]
  | .serverStreaming => ["grpc.ClientReadableStream", "<", response, ">"]
  | .clientStreaming => ["grpc.ClientWritableStream", "<", request, ">"]
  | .bidiStreaming => ["grpc.ClientDuplexStream", "<", request, ",", response, ">"]

/-- The settings of a call: one of them, or both. Where they are not optional there is a call without them. -/
def settings (optional : Bool) : List (List Parameter) :=
  (if optional then [] else [[]]) ++
    [[⟨"metadataOrOptions", optional, ["grpc.Metadata", "|", "grpc.CallOptions", "|", "null"]⟩],
      [⟨"metadata", optional, ["grpc.Metadata", "|", "null"]⟩,
        ⟨"options", optional, ["grpc.CallOptions", "|", "null"]⟩]]

/-- A call takes its argument first unless the client streams, and a callback last unless the server streams. -/
def signatures (m : Schema.Method) (request response : String) : List Signature :=
  let before : List Parameter := if m.clientStreaming then [] else [⟨"argument", false, [request]⟩]
  let after : List Parameter :=
    if m.serverStreaming then [] else [⟨"callback", false, ["grpc.requestCallback", "<", response, ">"]⟩]
  (settings m.serverStreaming).map fun given =>
    ⟨Text.lowerFirst m.name, before ++ given ++ after, resultType request response m.shape⟩

end ProtoStubs.Service.Node
