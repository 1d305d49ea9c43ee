import ProtoStubs.Text.DecimalDigit
import ProtoStubs.Text.Quoted

/-! The arguments of the command. Options may be written with a unique part of their long names;
their values follow as the next argument or after an equals sign. Every argument is first looked at
by itself; only then are the options taken one after another. -/

namespace ProtoStubs.CommandLine

/-- Two generations of the rules. The earlier one makes nothing of a written value of two dashes, and
takes all letters behind the short option for help as options; the later one takes such a value as it
is, and lets letters of no option be. -/
inductive Release
  | early
  | late
  deriving DecidableEq

inductive OptionName
  | shortHelp
  | longHelp
  | request
  | parameter
  deriving DecidableEq

def OptionName.text : OptionName → String
  | .shortHelp => "-h"
  | .longHelp => "--help"
  | .request => "--request"
  | .parameter => "--parameter"

def OptionName.all : List OptionName := [.shortHelp, .longHelp, .request, .parameter]

inductive Attached
  | nothing
  | afterEquals (value : List Char)
  /-- Further letters behind the letter of a short option. -/
  | letters (value : List Char)
  deriving DecidableEq

inductive UsageError
  | ambiguous (argument : String) (candidates : List OptionName)
  | missingValue (option : OptionName)
  | unwantedValue (value : String)
  | unrecognized (arguments : List String)
  deriving DecidableEq

def UsageError.message : UsageError → String
  | .ambiguous argument candidates =>
    "ambiguous option: " ++ argument ++ " could match " ++
      String.intercalate ", " (candidates.map (·.text))
  | .missingValue option => "argument " ++ option.text ++ ": expected one argument"
  | .unwantedValue value => "argument -h/--help: ignored explicit argument " ++ Text.quote value
  | .unrecognized arguments => "unrecognized arguments: " ++ String.intercalate " " arguments

inductive Word
  | option (name : OptionName) (attached : Attached)
  | plain (text : String)
  | stranger (text : String)
  /-- Two dashes, after which all words are plain. -/
  | separator
  deriving DecidableEq

def isDigits (cs : List Char) : Bool :=
  let digits := cs.takeWhile Text.isDecimalDigit
  let rest := cs.dropWhile Text.isDecimalDigit
  !digits.isEmpty && (rest == [] || rest == ['\n'])

def isNumber (cs : List Char) : Bool :=
  isDigits cs ||
    match cs.dropWhile Text.isDecimalDigit with
    | '.' :: fraction => isDigits fraction
    | _ => false

def cutAtEquals (cs : List Char) : List Char × Attached :=
  match cs.dropWhile (· != '=') with
  | [] => (cs, .nothing)
  | _ :: value => (cs.takeWhile (· != '='), .afterEquals value)

def longCandidates (start : List Char) : List OptionName :=
  OptionName.all.filter fun o => start.isPrefixOf o.text.toList

def classifyDashed (cs : List Char) : Except UsageError Word :=
  let (start, attached) := cutAtEquals cs
  let unknown :=
    if isNumber (cs.drop 1) || cs.contains ' ' then .plain (String.ofList cs)
    else .stranger (String.ofList cs)
  match OptionName.all.find? (·.text.toList == start), cs with
  | some o, _ => .ok (.option o attached)
  | none, '-' :: '-' :: _ =>
    match longCandidates start with
    | [] => .ok unknown
    | [o] => .ok (.option o attached)
    | candidates => .error (.ambiguous (String.ofList cs) candidates)
  | none, '-' :: 'h' :: letters => .ok (.option .shortHelp (.letters letters))
  | none, _ => .ok unknown

def classify (argument : String) : Except UsageError Word :=
  match argument.toList with
  | '-' :: second :: rest => classifyDashed ('-' :: second :: rest)
  | _ => .ok (.plain argument)

def words : List String → Except UsageError (List Word)
  | [] => .ok []
  | argument :: rest =>
    if argument = "--" then .ok (.separator :: rest.map .plain)
    else do
      let word ← classify argument
      let others ← words rest
      return word :: others

/-- Each `h` asks for help again; all from the first other character on is a value, which help does
not take. -/
def checkEarlyLetters : List Char → Except UsageError Unit
  | [] => .ok ()
  | 'h' :: letters => checkEarlyLetters letters
  | value => .error (.unwantedValue (String.ofList value))

def checkLateLetters : List Char → Except UsageError Unit
  | 'h' :: '=' :: value => .error (.unwantedValue (String.ofList value))
  | 'h' :: letters => checkLateLetters letters
  | '-' :: rest => .error (.unwantedValue (String.ofList ('-' :: rest)))
  | _ => .ok ()

structure Settings where
  request : Option String := none
  parameter : Option String := none
  deriving DecidableEq

inductive Invocation
  | help
  | run (settings : Settings)
  deriving DecidableEq

def Settings.set (settings : Settings) (name : OptionName) (value : String) : Settings :=
  match name with
  | .request => { settings with request := some value }
  | .parameter => { settings with parameter := some value }
  | .shortHelp | .longHelp => settings

section

variable (release : Release)

def checkHelp (name : OptionName) : Attached → Except UsageError Unit
  | .nothing => .ok ()
  | .letters letters =>
    match release with
    | .early => checkEarlyLetters letters
    | .late => checkLateLetters letters
  | .afterEquals value =>
    -- The earlier rules leave out the equals sign and read the value as letters.
    if release = .early ∧ name = .shortHelp ∧ value ≠ [] then checkEarlyLetters value
    else .error (.unwantedValue (String.ofList value))

def writtenValue (value : List Char) : String :=
  if release = .early ∧ value = ['-', '-'] then "" else String.ofList value

/-- Takes the options in order. A request for help is answered at once; words that belong nowhere
are complained about at the end. -/
def interpret (settings : Settings) (strangers : List String) :
    List Word → Except UsageError Invocation
  | [] => if strangers.isEmpty then .ok (.run settings) else .error (.unrecognized strangers)
  | .plain text :: rest => interpret settings (strangers ++ [text]) rest
  | .stranger text :: rest => interpret settings (strangers ++ [text]) rest
  | .separator :: rest => interpret settings (strangers ++ ["--"]) rest
  | .option .shortHelp attached :: _ => (checkHelp release .shortHelp attached).map fun _ => .help
  | .option .longHelp attached :: _ => (checkHelp release .longHelp attached).map fun _ => .help
  | .option name (.afterEquals value) :: rest =>
    interpret (settings.set name (writtenValue release value)) strangers rest
  | .option name _ :: .plain value :: rest => interpret (settings.set name value) strangers rest
  | .option name _ :: _ => .error (.missingValue name)

def parseArguments (arguments : List String) : Except UsageError Invocation := do
  interpret release {} [] (← words arguments)

end

end ProtoStubs.CommandLine
