import ProtoStubs.Proofs.DeclaredClient
import ProtoStubs.Proofs.Scoping
import ProtoStubs.Service.WebScript

/-!
# Reading the script of a client

Of the sections of a script, those are read that load a module, make the object of a service, describe a
method, make a client, define one of its functions, or export a name. Of a function its parameters are read
and what its statements do.
-/

namespace ProtoStubs.Service

open Layout Text

namespace WebScript

/-- What a function returns: a promise, or an object of which the members have so many parameters. -/
inductive Answer
  | promise
  | object (members : List (String × Nat))
  deriving DecidableEq

/-- What a statement of a function does: it takes an argument of a shorter call for a later parameter, hands
the description of a method to the runtime, keeps handlers of an event, or returns. -/
inductive Effect
  | shifted (count position : Nat) (parameter : String)
  | called (function description : String)
  | listened (event : String)
  | returned (answer : Answer)
  deriving DecidableEq

structure Function where
  client : String
  name : String
  parameters : List String
  effects : List Effect
  deriving DecidableEq

structure ScriptedClient where
  name : String
  functions : List Function
  deriving DecidableEq

inductive Item
  | imported (name path : String)
  | service (name : String)
  | method (description : Description)
  | client (name : String)
  | function (definition : Function)
  | exported (name : String)
  deriving DecidableEq

structure Scripted where
  imports : List (String × String)
  services : List Described
  clients : List ScriptedClient
  exports : List String
  deriving DecidableEq

def parameters? : List String → Option (List String)
  | "function" :: "(" :: rest => some ((rest.takeWhile (· ≠ ")")).filter (· ≠ ","))
  | _ => none

def called? : Option (List String) → Option Effect
  | some [function, description] => some (.called function description)
  | _ => none

def call? (head : String) : Option Effect :=
  called? (captures "$($, \x7b" head <|> captures "var client = $($, \x7b" head)

def shifted? (s : Section) : Option Effect :=
  match captures "if (arguments.length === $) \x7b" s.head, capturesAll ["$ = arguments[$];"] s.body with
  | some [count], some [parameter, position] =>
    match count.toNat?, position.toNat? with
    | some count, some position => some (.shifted count position parameter)
    | _, _ => none
  | _, _ => none

def member? (s : Section) : Option (String × Nat) :=
  match tokens s.head with
  | name :: ":" :: definition => (parameters? definition).map fun parameters => (name, parameters.length)
  | _ => none

/-- What a statement does. A promise makes its call when it is returned. -/
def effects (s : Section) : List Effect :=
  match tokens s.head with
  | "if" :: _ => (shifted? s).toList
  | ["var", "listeners", "=", "\x7b"] => s.body.filterMap fun l => (tokens l.2).head?.map .listened
  | "return" :: "new" :: "Promise" :: _ =>
    ((sections s.body).filterMap fun inner => call? inner.head) ++ [.returned .promise]
  | ["return", "\x7b"] => [.returned (.object ((sections s.body).filterMap member?))]
  | _ => (call? s.head).toList

def function? (s : Section) : Option Item :=
  match tokens s.head with
  | target :: _ :: definition =>
    match components target, parameters? definition with
    | [client, "prototype", name], some parameters =>
      some (.function ⟨client, name, parameters, (sections s.body).flatMap effects⟩)
    | _, _ => none
  | _ => none

def methodPatterns : List String := [
  "methodName: \"$\",", "service: $,", "requestStream: $,", "responseStream: $,", "requestType: $,",
  "responseType: $"]

def method? (s : Section) : Option Item :=
  match captures "$ = \x7b" s.head, capturesAll methodPatterns s.body with
  | some [target], some [name, service, requestStream, responseStream, requestType, responseType] =>
    if target = service ++ "." ++ name then
      some (.method ⟨service, name, requestStream, responseStream, requestType, responseType⟩)
    else none
  | _, _ => none

def exported? (head : String) : Option Item :=
  match captures "$ = $;" head with
  | some [target, name] => if target = "exports." ++ name then some (.exported name) else none
  | _ => none

def import? (head : String) : Option Item :=
  match captures "var $ = require(\"$\");" head <|> captures "var $ = require(\"$\").grpc;" head with
  | some [name, path] => some (.imported name path)
  | _ => none

def service? (head : String) : Option Item :=
  match captures "var $ = (function () \x7b" head with
  | some [name] => some (.service name)
  | _ => none

def client? (head : String) : Option Item :=
  match captures "function $(serviceHost, options) \x7b" head with
  | some [name] => some (.client name)
  | _ => none

def item? (s : Section) : Option Item :=
  match (tokens s.head).drop 1 with
  | "=" :: "\x7b" :: _ => method? s
  | "=" :: "function" :: "(" :: _ => function? s
  | "=" :: _ => exported? s.head
  | _ => import? s.head <|> service? s.head <|> client? s.head

def Item.imported? : Item → Option (String × String)
  | .imported name path => some (name, path)
  | _ => none

def Item.servicePart? : Item → Option (String ⊕ Description)
  | .service name => some (.inl name)
  | .method description => some (.inr description)
  | _ => none

def Item.clientPart? : Item → Option (String ⊕ Function)
  | .client name => some (.inl name)
  | .function definition => some (.inr definition)
  | _ => none

def Item.exported? : Item → Option String
  | .exported name => some name
  | _ => none

def scripted (items : List Item) : Scripted where
  imports := items.filterMap Item.imported?
  services := (gather (items.filterMap Item.servicePart?)).2.map fun p => ⟨p.1, p.2⟩
  clients := (gather (items.filterMap Item.clientPart?)).2.map fun p => ⟨p.1, p.2⟩
  exports := items.filterMap Item.exported?

def read (t : String) : Scripted := scripted ((sections (readLines t)).filterMap item?)

end WebScript

open WebScript

/-- How a call of a method is defined. Without promises a unary call of two arguments has no metadata. -/
def Description.function (promises : Bool) (d : Description) : Function :=
  let client := d.service ++ "Client"
  let name := Text.lowerFirst d.name
  let description := d.service ++ "." ++ d.name
  match d.shape with
  | .unary =>
    if promises then
      ⟨client, name, ["requestMessage", "metadata"], [.called "grpc.unary" description, .returned .promise]⟩
    else
      ⟨client, name, ["requestMessage", "metadata", "callback"],
        [.shifted 2 1 "callback", .called "grpc.unary" description, .returned (.object [("cancel", 0)])]⟩
  | .serverStreaming =>
    ⟨client, name, ["requestMessage", "metadata"],
      [.listened "data", .listened "end", .listened "status", .called "grpc.invoke" description,
        .returned (.object [("on", 2), ("cancel", 0)])]⟩
  | .clientStreaming =>
    ⟨client, name, ["metadata"],
      [.listened "end", .listened "status", .called "grpc.client" description,
        .returned (.object [("on", 2), ("write", 1), ("end", 0), ("cancel", 0)])]⟩
  | .bidiStreaming =>
    ⟨client, name, ["metadata"],
      [.listened "data", .listened "end", .listened "status", .called "grpc.client" description,
        .returned (.object [("on", 2), ("write", 1), ("end", 0), ("cancel", 0)])]⟩

def WebScript.script (promises : Bool) (f : File) : Scripted where
  imports := (f.imports.map fun target =>
    (SourcePath.namespaceName target, SourcePath.importPath f.name target)) ++
      [("grpc", "@improbable-eng/grpc-web")]
  services := f.services.map Stub.described
  clients := f.services.map fun s =>
    ⟨s.name ++ "Client", s.methods.map fun m => (s.describe m).function promises⟩
  exports := f.services.flatMap fun s => [s.name, s.name ++ "Client"]

end ProtoStubs.Service
