import Mathlib
import ProtoStubs.CommandLine
import ProtoStubs.Proofs.Grouping
import ProtoStubs.Proofs.ReadTokens
import ProtoStubs.Proofs.Success

/-!
# What the command leaves behind

A run writes its whole response, or none of it. Whatever stage it fails at, the exit code tells, and the
error output holds the warning that may have been due by then, and the reason.
-/

namespace ProtoStubs.Wire

theorem Node.encode_ne_nil (n : Node) : n.encode ≠ [] := by
  cases n <;> simp [Node.encode, encodeTag, encodeVarint_ne_nil]

theorem encodeResponse_ne_nil (r : Response) : encodeResponse r ≠ [] := by
  simp [encodeResponse, responseNodes, encodeNodes, Node.encode_ne_nil]

end ProtoStubs.Wire

namespace ProtoStubs.CommandLine

/-- The bytes to answer: those of the request's file, if one with a name is given, or else the standard
input. -/
def Settings.input (settings : Settings) (host : Host) : Except ReadError Bytes :=
  match settings.request.filter (· ≠ "") with
  | none => host.stdin
  | some name => host.read (.ofString name)

section Stages

variable (settings : Settings) (host : Host)

def Answers (output : Bytes) : Prop :=
  ∃ input, settings.input host = .ok input ∧ (run input settings.parameter).1 = .ok output

/-- The stages at which a run can fail, each with its message. -/
inductive Fails : String → Prop
  | unreadable {e : ReadError} (h : settings.input host = .error e) : Fails e.message
  | malformed {input : Bytes} (hinput : settings.input host = .ok input)
      (h : Wire.decodeRequest input = none) : Fails (host.decodeErrorText input)
  | generation {input : Bytes} {request : Descriptor.Request} {e : GenerationError}
      (hinput : settings.input host = .ok input)
      (hrequest : Wire.decodeRequest input = some request)
      (h : generate request settings.parameter = .error e) : Fails e.message

/-- The request was parsed, and the parameter string in force gives the service once, by its old name. -/
def Warns : Prop :=
  ∃ input request, settings.input host = .ok input ∧
    Wire.decodeRequest input = some request ∧
    Parameters.given "service" (Generate.effectiveParameter request settings.parameter) = ["true"]

end Stages

section Runs

variable {settings : Settings} {host : Host}

theorem Settings.source_eq (settings : Settings) :
    settings.source =
      match settings.request.filter (· ≠ "") with
      | none => .stdin
      | some name => .file (.ofString name) := by
  unfold source
  cases settings.request with
  | none => rfl
  | some name =>
    by_cases hname : name = ""
    · subst hname
      rfl
    · simp [Option.filter, hname]

theorem Host.bytes_source (host : Host) (settings : Settings) :
    host.bytes settings.source = settings.input host := by
  rw [Settings.source_eq, Settings.input]
  cases settings.request.filter (· ≠ "") <;> rfl

theorem execute_eq {arguments : List String}
    (h : parseArguments host.release arguments = .ok (.run settings)) :
    execute host arguments =
      match settings.input host with
      | .ok input => answer host.decodeErrorText input settings.parameter
      | .error e => unreadable e := by
  cases hinput : settings.input host with
  | ok input | error e => simp only [execute, plan, h, Host.bytes_source, hinput]

theorem answer_malformed {input : Bytes} (h : Wire.decodeRequest input = none)
    (decodeErrorText : Bytes → String) (parameter : Option String) :
    answer decodeErrorText input parameter =
      { exitCode := 1, stderr := fatalText (decodeErrorText input) } := by
  rw [answer, run, h]
  simp [noticeText, runErrorText]

theorem answer_request {input : Bytes} {request : Descriptor.Request}
    (h : Wire.decodeRequest input = some request) (decodeErrorText : Bytes → String)
    (parameter : Option String) :
    answer decodeErrorText input parameter =
      match generate request parameter with
      | .ok response => {
          exitCode := 0
          stdout := Wire.encodeResponse response
          stderr := noticeText (generationNotices request parameter) }
      | .error e => {
          exitCode := 1
          stderr := noticeText (generationNotices request parameter) ++ fatalText e.message } := by
  simp only [answer, run, h]
  cases generate request parameter <;> rfl

def warningLine : String :=
  "protoc-gen-ts warning: The service=true parameter has been deprecated. Use service=grpc-web instead.\n"

theorem noticeText_eq (request : Descriptor.Request) (parameter : Option String) :
    noticeText (generationNotices request parameter) =
      if Parameters.given "service" (Generate.effectiveParameter request parameter) = ["true"] then
        warningLine else "" := by
  rw [generationNotices, Parameters.notices_eq]
  split <;> rfl

theorem answers_iff {input : Bytes} {request : Descriptor.Request} {output : Bytes}
    (hinput : settings.input host = .ok input)
    (hrequest : Wire.decodeRequest input = some request) :
    Answers settings host output ↔
      ∃ response, generate request settings.parameter = .ok response ∧
        Wire.encodeResponse response = output := by
  have hanswers : Answers settings host output ↔
      (run input settings.parameter).1 = .ok output := by
    constructor
    · rintro ⟨input', hinput', h⟩
      cases hinput.symm.trans hinput'
      exact h
    · exact fun h => ⟨input, hinput, h⟩
  rw [hanswers]
  simp only [run, hrequest]
  cases generate request settings.parameter <;> simp

theorem not_answers_of_unreadable {e : ReadError} (h : settings.input host = .error e)
    (output : Bytes) : ¬ Answers settings host output := by
  rintro ⟨input, hinput, -⟩
  cases h.symm.trans hinput

theorem not_answers_of_malformed {input : Bytes} (hinput : settings.input host = .ok input)
    (h : Wire.decodeRequest input = none) (output : Bytes) :
    ¬ Answers settings host output := by
  rintro ⟨input', hinput', ho⟩
  cases hinput.symm.trans hinput'
  rw [run, h] at ho
  cases ho

theorem not_warns_of_unreadable {e : ReadError} (h : settings.input host = .error e) :
    ¬ Warns settings host := by
  rintro ⟨input, request, hinput, -⟩
  cases h.symm.trans hinput

theorem not_warns_of_malformed {input : Bytes} (hinput : settings.input host = .ok input)
    (h : Wire.decodeRequest input = none) : ¬ Warns settings host := by
  rintro ⟨input', request, hinput', hrequest, -⟩
  cases hinput.symm.trans hinput'
  cases h.symm.trans hrequest

theorem warns_iff {input : Bytes} {request : Descriptor.Request}
    (hinput : settings.input host = .ok input)
    (hrequest : Wire.decodeRequest input = some request) :
    Warns settings host ↔
      Parameters.given "service" (Generate.effectiveParameter request settings.parameter) =
        ["true"] := by
  constructor
  · rintro ⟨input', request', hinput', hrequest', hgiven⟩
    cases hinput.symm.trans hinput'
    cases hrequest.symm.trans hrequest'
    exact hgiven
  · intro hgiven
    exact ⟨input, request, hinput, hrequest, hgiven⟩

end Runs

/-- A request for a file without a descriptor, behind an absolute path. -/
def missingFileHost : Host where
  release := .late
  stdin := .error { number := 9, reason := "Bad file descriptor" }
  read path :=
    if path = ⟨"/", ["work", "request.bin"]⟩ then .ok [10, 1, 97]
    else .error { number := 2, reason := "No such file or directory", file := path.toString }
  decodeErrorText _ := "Error parsing message"

def missingFileArguments : List String := ["--request=/work//request.bin", "--param", "service=true"]

end ProtoStubs.CommandLine
