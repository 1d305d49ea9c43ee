import ProtoStubs.Proofs.Outline
import ProtoStubs.Proofs.Visible
import ProtoStubs.Service.Web

/-!
# Reading the declaration of a client

Of the sections of a declaration, those are read that import a module, describe a method, list the methods
of a service, name the members of a result, or list the calls of a client. The descriptions of methods
stand before the class of their service.
-/

namespace ProtoStubs.Service

open Layout Text

structure Description where
  service : String
  name : String
  requestStream : String
  responseStream : String
  requestType : String
  responseType : String
  deriving DecidableEq

structure Described where
  name : String
  methods : List Description
  deriving DecidableEq

structure Parameter where
  name : String
  isOptional : Bool
  type : List String
  deriving DecidableEq

structure Signature where
  name : String
  parameters : List Parameter
  result : List String
  deriving DecidableEq

/-- The members of a result with the number of their parameters, and the events that its handlers are told. -/
structure Interface where
  name : String
  members : List (String × Nat)
  events : List String
  deriving DecidableEq

namespace Web

structure MethodType where
  name : String
  service : String
  requestStream : String
  responseStream : String
  requestType : String
  responseType : String
  deriving DecidableEq

/-- A client with the signatures of its calls; a call with two parameter lists has two of them. -/
structure DeclaredClient where
  name : String
  signatures : List Signature
  deriving DecidableEq

inductive Item
  | imported (name path : String)
  | methodType (type : MethodType)
  | serviceClass (name : String) (members : List (String × String))
  | interface (members : Interface)
  | client (calls : DeclaredClient)
  deriving DecidableEq

structure Declared where
  imports : List (String × String)
  services : List Described
  interfaces : List Interface
  clients : List DeclaredClient
  deriving DecidableEq

def import? (head : String) : Option Item :=
  match captures "import * as $ from \"$\";" head <|> captures "import \x7b$\x7d from \"$\";" head with
  | some [name, path] => some (.imported name path)
  | _ => none

def methodTypePatterns : List String := [
  "readonly methodName: string;", "readonly service: typeof $;", "readonly requestStream: $;",
  "readonly responseStream: $;", "readonly requestType: typeof $;", "readonly responseType: typeof $;"]

def methodType? (s : Section) : Option Item :=
  match captures "type $ = \x7b" s.head, capturesAll methodTypePatterns s.body with
  | some [name], some [service, requestStream, responseStream, requestType, responseType] =>
    some (.methodType ⟨name, service, requestStream, responseStream, requestType, responseType⟩)
  | _, _ => none

def member? (content : String) : Option (String × String) :=
  match captures "static readonly $: $;" content with
  | some [name, type] => some (name, type)
  | _ => none

def glue (token : String) : List (List String) → List (List String)
  | [] => [[token]]
  | arg :: args => (token :: arg) :: args

/-- The arguments up to the bracket that ends them, and what follows it. Commas in brackets end no argument. -/
def arguments : Nat → List String → Option (List (List String) × List String)
  | _, [] => none
  | depth, token :: rest =>
    if token = ")" then
      match depth with
      | 0 => some ([], rest)
      | depth + 1 => (arguments depth rest).map fun p => (glue token p.1, p.2)
    else if token = "(" then (arguments (depth + 1) rest).map fun p => (glue token p.1, p.2)
    else if token = "," ∧ depth = 0 then (arguments depth rest).map fun p => ([] :: p.1, p.2)
    else (arguments depth rest).map fun p => (glue token p.1, p.2)

def parameter? : List String → Option Parameter
  | name :: mark :: type =>
    if mark = ":" then some ⟨name, false, type⟩
    else if mark = "?" then some ⟨name, true, type.drop 1⟩
    else none
  | _ => none

def signature? : List String → Option Signature
  | name :: bracket :: rest =>
    match arguments 0 rest with
    | some (args, colon :: result) =>
      if bracket = "(" ∧ colon = ":" then (args.mapM parameter?).map (⟨name, ·, result⟩) else none
    | _ => none
  | _ => none

/-- The signatures in some lines. Each ends with a semicolon, on the same line or on a later one. -/
def signatures (ls : List (Nat × String)) : List Signature :=
  ((ls.flatMap fun l => tokens l.2).splitOn ";").filterMap signature?

def class? (s : Section) : Option Item :=
  match captures "export class $ \x7b" s.head, s.body with
  | some [name], (_, first) :: members =>
    if first = "static readonly serviceName: string;" then
      some (.serviceClass name (members.filterMap fun l => member? l.2))
    else if first = "readonly serviceHost: string;" then some (.client ⟨name, signatures members⟩)
    else none
  | _, _ => none

def Signature.event? (σ : Signature) : Option String :=
  match σ.parameters with
  | ⟨_, _, [_, event, _]⟩ :: _ => if σ.name = "on" then some event else none
  | _ => none

def interface? (s : Section) : Option Item :=
  match (tokens s.head)[1]? with
  | some name =>
    let found := signatures s.body
    some (.interface ⟨name, found.map fun σ => (σ.name, σ.parameters.length), found.filterMap Signature.event?⟩)
  | none => none

def item? (s : Section) : Option Item :=
  match (tokens s.head).head? with
  | some "import" => import? s.head
  | some "type" => methodType? s
  | some "export" => class? s
  | some "interface" => interface? s
  | _ => none

/-- The described methods: each member of a service's class with the type that it has. -/
def describe? : List (String × String) → List MethodType → Option (List Description)
  | [], [] => some []
  | (name, type) :: members, t :: types =>
    if type = t.name then
      (describe? members types).map
        (⟨t.service, name, t.requestStream, t.responseStream, t.requestType, t.responseType⟩ :: ·)
    else none
  | _, _ => none

def Item.imported? : Item → Option (String × String)
  | .imported name path => some (name, path)
  | _ => none

/-- Of what a service is described by, its class is the head and the types before it are the details. -/
def Item.part? : Item → Option ((String × List (String × String)) ⊕ MethodType)
  | .serviceClass name members => some (.inl (name, members))
  | .methodType type => some (.inr type)
  | _ => none

def Item.interface? : Item → Option Interface
  | .interface members => some members
  | _ => none

def Item.client? : Item → Option DeclaredClient
  | .client calls => some calls
  | _ => none

def described? (p : (String × List (String × String)) × List MethodType) : Option Described :=
  (describe? p.1.2 p.2.reverse).map fun methods => ⟨p.1.1, methods⟩

def services (items : List Item) : List Described :=
  (gather (items.filterMap Item.part?).reverse).2.reverse.filterMap described?

def declared (items : List Item) : Declared where
  imports := items.filterMap Item.imported?
  services := services items
  interfaces := items.filterMap Item.interface?
  clients := items.filterMap Item.client?

def read (t : String) : Declared := declared ((sections (readLines t)).filterMap item?)

end Web

structure Method.Named (m : Method) : Prop where
  name : IsName m.name
  request : IsToken m.requestType
  response : IsToken m.responseType

structure Stub.Named (s : Stub) : Prop where
  name : IsName s.name
  fullName : '\n' ∉ s.fullName.toList
  methods : ∀ m ∈ s.methods, m.Named

structure File.Named (f : File) : Prop where
  name : '\n' ∉ f.name.toList
  package : '\n' ∉ f.package.toList
  services : ∀ s ∈ f.services, s.Named
  imports : ∀ target ∈ f.imports, IsPath target

def Stub.describe (s : Stub) (m : Method) : Description :=
  ⟨s.name, m.name, m.requestStream, m.responseStream, m.requestType, m.responseType⟩

def Stub.described (s : Stub) : Described := ⟨s.name, s.methods.map s.describe⟩

def Description.shape (d : Description) : Schema.CallShape :=
  if d.requestStream = "true" then
    if d.responseStream = "true" then .bidiStreaming else .clientStreaming
  else if d.responseStream = "true" then .serverStreaming else .unary

/-- How a call of a method is declared. Without promises a unary call has two parameter lists. -/
def Description.signatures (promises : Bool) (d : Description) : List Signature :=
  let client := Text.lowerFirst d.name
  let message : Parameter := ⟨"requestMessage", false, [d.requestType]⟩
  let metadata : Parameter := ⟨"metadata", true, ["grpc.Metadata"]⟩
  let callback : Parameter := ⟨"callback", false, ["(", "error", ":", "ServiceError", "|", "null", ",",
    "responseMessage", ":", d.responseType, "|", "null", ")", "=", ">", "void"]⟩
  match d.shape with
  | .unary =>
    if promises then [⟨client, [message, metadata], ["Promise", "<", d.responseType, ">"]⟩]
    else [⟨client, [message, { metadata with isOptional := false }, callback], ["UnaryResponse"]⟩,
      ⟨client, [message, callback], ["UnaryResponse"]⟩]
  | .serverStreaming => [⟨client, [message, metadata], ["ResponseStream", "<", d.responseType, ">"]⟩]
  | .clientStreaming => [⟨client, [metadata], ["RequestStream", "<", d.requestType, ">"]⟩]
  | .bidiStreaming =>
    [⟨client, [metadata], ["BidirectionalStream", "<", d.requestType, ",", d.responseType, ">"]⟩]

def Parameter.tokens (p : Parameter) : List String :=
  p.name :: (if p.isOptional then ["?", ":"] else [":"]) ++ p.type

def Signature.tokens (σ : Signature) : List String :=
  σ.name :: "(" :: [","].intercalate (σ.parameters.map Parameter.tokens) ++ ")" :: ":" :: σ.result

namespace Web

def unaryResult : Interface := ⟨"UnaryResponse", [("cancel", 0)], []⟩

def responseResult : Interface :=
  ⟨"ResponseStream", [("cancel", 0), ("on", 2), ("on", 2), ("on", 2)], ["data", "end", "status"]⟩

def requestResult : Interface :=
  ⟨"RequestStream", [("write", 1), ("end", 0), ("cancel", 0), ("on", 2), ("on", 2)], ["end", "status"]⟩

def bidiResult : Interface :=
  ⟨"BidirectionalStream", [("write", 1), ("end", 0), ("cancel", 0), ("on", 2), ("on", 2), ("on", 2)],
    ["data", "end", "status"]⟩

def results (promises : Bool) : List Interface :=
  (if promises then [] else [unaryResult]) ++ [responseResult, requestResult, bidiResult]

end Web

theorem Stub.shape_describe (s : Stub) (m : Method) : (s.describe m).shape = m.shape := by
  cases hclient : m.source.clientStreaming <;> cases hserver : m.source.serverStreaming <;>
    simp [describe, Description.shape, Method.requestStream, Method.responseStream, Method.shape,
      Schema.Method.shape, hclient, hserver]

end ProtoStubs.Service
