import ProtoStubs.CommandLine

/-! The command as a program: it reads what the plan asks for, and writes the outcome. -/

namespace ProtoStubs.CommandLine

partial def readAll (stream : IO.FS.Stream) (sofar : ByteArray) : IO ByteArray := do
  let chunk ← stream.read 65536
  if chunk.isEmpty then return sofar else readAll stream (sofar ++ chunk)

/-- The number of a system error, which some calls report negated. -/
def errorNumber (code : UInt32) : Nat := (min code (0 - code)).toNat

def ReadError.ofSystem (file : Option String) : IO.Error → ReadError
  | .alreadyExists _ code reason | .otherError code reason | .resourceBusy code reason
  | .resourceVanished code reason | .unsupportedOperation code reason | .hardwareFault code reason
  | .unsatisfiedConstraints code reason | .illegalOperation code reason
  | .protocolError code reason | .timeExpired code reason | .interrupted _ code reason
  | .noFileOrDirectory _ code reason | .invalidArgument _ code reason
  | .permissionDenied _ code reason | .resourceExhausted _ code reason
  | .inappropriateType _ code reason | .noSuchThing _ code reason =>
    { number := errorNumber code, reason, file }
  | e => { number := 5, reason := toString e, file }

def readSource : Source → IO (Except ReadError Bytes)
  | .stdin => do
    try return .ok (← readAll (← IO.getStdin) .empty).data.toList
    catch e => return .error (.ofSystem none e)
  | .file path => do
    try return .ok (← IO.FS.readBinFile path.toString).data.toList
    catch e => return .error (.ofSystem path.toString e)

def writeOutcome (outcome : Outcome) : IO UInt32 := do
  let stdout ← IO.getStdout
  stdout.putStr outcome.help
  stdout.write ⟨outcome.stdout.toArray⟩
  stdout.flush
  (← IO.getStderr).putStr outcome.stderr
  return outcome.exitCode.toUInt32

def perform : Plan → IO UInt32
  | .finish outcome => writeOutcome outcome
  | .answer source parameter => do
    match ← readSource source with
    | .ok input => writeOutcome (answer (fun _ => "Error parsing message") input parameter)
    | .error e => writeOutcome (unreadable e)

end ProtoStubs.CommandLine

def main (arguments : List String) : IO UInt32 :=
  ProtoStubs.CommandLine.perform (ProtoStubs.CommandLine.plan .late arguments)
