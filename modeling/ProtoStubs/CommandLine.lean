import ProtoStubs.CommandLine.Arguments
import ProtoStubs.CommandLine.Path
import ProtoStubs.Wire.Response

/-! The command: arguments and what the host gives in, an exit code and the contents of both output
streams out. Nothing is written to the standard output unless the whole response was made. -/

namespace ProtoStubs.CommandLine

def programName : String := "protoc-gen-ts"

def usage : String :=
  "usage: " ++ programName ++ " [-h] [--request REQUEST] [--parameter PARAMETER]\n"

def helpText : String :=
  usage ++
  "\nprotoc plugin: TypeScript declarations and gRPC service stubs for google-\nprotobuf\n" ++
  "\noptions:\n" ++
  "  -h, --help            show this help message and exit\n" ++
  "  --request REQUEST     Read a serialized CodeGeneratorRequest from this file\n" ++
  "                        instead of stdin\n" ++
  "  --parameter PARAMETER\n" ++
  "                        Override the request's parameter string, e.g.\n" ++
  "                        service=grpc-web,mode=grpc-js\n"

structure ReadError where
  number : Nat
  reason : String
  file : Option String := none
  deriving DecidableEq

def ReadError.message (e : ReadError) : String :=
  "[Errno " ++ toString e.number ++ "] " ++ e.reason ++
    match e.file with
    | none => ""
    | some name => ": " ++ Text.quote name

structure Host where
  release : Release
  stdin : Except ReadError Bytes
  /-- Arguments of a process hold no null character, so no path does. -/
  read : Path → Except ReadError Bytes
  /-- What the codec says of bytes that it cannot parse. -/
  decodeErrorText : Bytes → String

/-- What a run leaves behind. Help is kept apart from the response, though both go to the standard
output. -/
structure Outcome where
  exitCode : Nat
  stdout : Bytes := []
  help : String := ""
  stderr : String := ""
  deriving DecidableEq

inductive Source
  | stdin
  | file (path : Path)
  deriving DecidableEq

def Host.bytes (host : Host) : Source → Except ReadError Bytes
  | .stdin => host.stdin
  | .file path => host.read path

def Settings.source (settings : Settings) : Source :=
  match settings.request with
  | none | some "" => .stdin
  | some path => .file (Path.ofString path)

inductive Plan
  | finish (outcome : Outcome)
  | answer (source : Source) (parameter : Option String)
  deriving DecidableEq

def plan (release : Release) (arguments : List String) : Plan :=
  match parseArguments release arguments with
  | .error e => .finish {
      exitCode := 2
      stderr := usage ++ programName ++ ": error: " ++ e.message ++ "\n" }
  | .ok .help => .finish { exitCode := 0, help := helpText }
  | .ok (.run settings) => .answer settings.source settings.parameter

def noticeText (notices : List Notice) : String :=
  String.join (notices.map fun n => n.text ++ "\n")

def fatalText (reason : String) : String := "FATAL: " ++ reason ++ "\n"

def unreadable (e : ReadError) : Outcome where
  exitCode := 1
  stderr := fatalText e.message

section

variable (decodeErrorText : Bytes → String)

def runErrorText (input : Bytes) : RunError → String
  | .malformed => decodeErrorText input
  | .generation e => e.message

def answer (input : Bytes) (parameter : Option String) : Outcome :=
  match run input parameter with
  | (.ok output, notices) => { exitCode := 0, stdout := output, stderr := noticeText notices }
  | (.error e, notices) => {
      exitCode := 1
      stderr := noticeText notices ++ fatalText (runErrorText decodeErrorText input e) }

end

def execute (host : Host) (arguments : List String) : Outcome :=
  match plan host.release arguments with
  | .finish outcome => outcome
  | .answer source parameter =>
    match host.bytes source with
    | .ok input => answer host.decodeErrorText input parameter
    | .error e => unreadable e

end ProtoStubs.CommandLine
