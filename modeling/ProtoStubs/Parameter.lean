import ProtoStubs.Error
import ProtoStubs.Text.Split

/-! The parameter string: `key=value` chunks between commas. Two keys are read, `service` and
`mode`; each may be given once, and all other keys are ignored. -/

namespace ProtoStubs

inductive ServiceVariant
  | none
  | grpcWeb
  | grpcPromise
  | grpcNode
  deriving DecidableEq

inductive Mode
  | none
  | grpcJs
  deriving DecidableEq

structure Parameters where
  service : ServiceVariant := .none
  mode : Mode := .none
  deriving DecidableEq

inductive Notice
  /-- The value `true` of `service` is an old name of `grpc-web`. -/
  | deprecatedServiceTrue
  deriving DecidableEq

def Notice.text : Notice → String
  | .deprecatedServiceTrue =>
    "protoc-gen-ts warning: The service=true parameter has been deprecated. " ++
      "Use service=grpc-web instead."

namespace Parameters

def cutChunk (chunk : List Char) : String × String :=
  (String.ofList (chunk.takeWhile (· != '=')), String.ofList ((chunk.dropWhile (· != '=')).drop 1))

def pairs (parameter : String) : List (String × String) :=
  ((Text.splitChars ',' parameter.toList).filter fun chunk => !chunk.isEmpty).map cutChunk

def addValue (key value : String) : List (String × List String) → List (String × List String)
  | [] => [(key, [value])]
  | (k, values) :: rest =>
    if k = key then (k, values ++ [value]) :: rest else (k, values) :: addValue key value rest

def groupValues (ps : List (String × String)) : List (String × List String) :=
  ps.foldl (fun groups p => addValue p.1 p.2 groups) []

def split (parameter : String) : List (String × List String) :=
  groupValues (pairs parameter)

def valuesOf (key : ParameterKey) (groups : List (String × List String)) : List String :=
  (groups.lookup key.name).getD []

def single (key : ParameterKey) (groups : List (String × List String)) :
    Except GenerationError (Option String) :=
  match valuesOf key groups with
  | [] => .ok none
  | [value] => .ok (some value)
  | values => .error (.parameter key values)

end Parameters

def ServiceVariant.ofValue? : String → Option ServiceVariant
  | "true" | "grpc-web" => some .grpcWeb
  | "grpc-promise" => some .grpcPromise
  | "grpc-node" => some .grpcNode
  | _ => Option.none

def ServiceVariant.decode : Option String → Except GenerationError ServiceVariant
  | Option.none => .ok .none
  | some value => require (.parameter .service [value]) (ofValue? value)

def ServiceVariant.notices (value : Option String) : List Notice :=
  if value = some "true" then [.deprecatedServiceTrue] else []

def Mode.ofValue? : String → Option Mode
  | "grpc-js" => some .grpcJs
  | _ => Option.none

def Mode.decode : Option String → Except GenerationError Mode
  | Option.none => .ok .none
  | some value => require (.parameter .mode [value]) (ofValue? value)

namespace Parameters

/-- The settings that a parameter string stands for. The service is decoded before the mode, so
its fault is the one reported. -/
def parse (parameter : String) : Except GenerationError Parameters := do
  let groups := split parameter
  let service ← ServiceVariant.decode (← single .service groups)
  let mode ← Mode.decode (← single .mode groups)
  return { service, mode }

def notices (parameter : String) : List Notice :=
  match single .service (split parameter) with
  | .ok value => ServiceVariant.notices value
  | .error _ => []

end Parameters

end ProtoStubs
