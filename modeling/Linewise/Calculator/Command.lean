import Linewise.Calculator.Run

/-!
# The command — a session started from arguments

The arguments are looked at in order.  A request for help or for the version, an unknown option
and a second file name decide the answer at once; otherwise a session runs over the named file, or
over the standard input.  Errors that end the session are explained on the standard error.

The standard error also takes the log, if the environment asks for one.  What a log looks like is
not for the command to say: it tells the log its events, and the environment says what is written
of them.  The standard output takes all that is written to it.
-/

namespace Linewise

namespace Command

/-- What the command leaves behind: its exit code and what it wrote. -/
structure Answer where
  code : Nat
  stdout : String
  stderr : String
deriving DecidableEq, Repr

/-- An argument as it is given: a text, or bytes that are none. -/
inductive Argument where
  | text (text : String)
  | other (bytes : List UInt8) (hbytes : decodeUtf8? bytes = none)
deriving DecidableEq, Repr

inductive Request where
  | help
  | version
  | unknownOption (option : String)
  | unexpectedArgument (argument : String)
  | session (path : Option String) (prompt : Bool)
deriving DecidableEq, Repr

def usage : String :=
  String.join <| List.map (· ++ "\n") [
    "linelex calculator",
    "",
    "Usage: linelex-calc [options] [file]",
    "",
    "Reads one \x60number operator number\x60 expression per line from <file>,",
    "or from standard input when no file (or \x60-\x60) is given, and prints",
    "each result. Operators: + - * /. The word \x60exit\x60 ends the session.",
    "",
    "Options:",
    "  --no-prompt     Do not print a prompt on interactive input",
    "  -h, --help      Show this help message",
    "  -V, --version   Show version information",
    "",
    "Set RUST_LOG (e.g. RUST_LOG=linelex=trace) for diagnostic logging."]

def versionText : String := "linelex-calc 0.1.0\n"

/-- Whether an argument is an option rather than a file name. -/
def isOption (argument : String) : Bool :=
  argument.toList.head? == some '-' && argument != "-"

/-- What the arguments ask for, given what those before them asked for: a file name and whether a
prompt is wanted.  An argument that is no text is an error when its turn comes. -/
def requestFrom (path : Option String) (prompt : Bool) :
    List Argument → Except (List UInt8) Request
  | [] => .ok (.session path prompt)
  | .other bytes _ :: _ => .error bytes
  | .text argument :: rest =>
    if argument ∈ ["help", "--help", "-h"] then .ok .help
    else if argument ∈ ["version", "--version", "-V"] then .ok .version
    else if argument = "--no-prompt" then requestFrom path false rest
    else if isOption argument then .ok (.unknownOption argument)
    else
      match path with
      | none => requestFrom (some argument) prompt rest
      | some _ => .ok (.unexpectedArgument argument)

def request (arguments : List Argument) : Except (List UInt8) Request :=
  requestFrom none true arguments

/-- An error and what lies behind it, a line each. -/
def explain (error : CalcError) : String :=
  "error: " ++ error.message ++ "\n" ++
    String.join (error.reasons.map fun reason => "  caused by: " ++ reason ++ "\n")

/-! ## Environments -/

/-- What the command is run in.  `filter` is the value of the variable `RUST_LOG` where that is set
to a text, and a log is kept then: `logText` gives what is written of a filter and of the events told
so far.  `complaint` gives what is written of an argument that is no text. -/
structure Environment where
  filter : Option String
  logText : String → List LogRecord → String
  complaint : List UInt8 → String

namespace Environment

/-- The environment that asks for no log. -/
def plain : Environment := ⟨none, fun _ _ => "", fun _ => ""⟩

/-- What the standard error takes of some events. -/
def logged (environment : Environment) (records : List LogRecord) : String :=
  match environment.filter with
  | none => ""
  | some filter => environment.logText filter records

end Environment

/-- What the command has to answer, and the events that it told the log before it explained
itself. -/
structure Report where
  code : Nat
  stdout : String
  explanation : String
  records : List LogRecord
deriving DecidableEq, Repr

def Report.answer (environment : Environment) (report : Report) : Answer :=
  ⟨report.code, report.stdout, environment.logged report.records ++ report.explanation⟩

/-! ## Answers -/

def doneRecord (summary : Summary) : LogRecord := ⟨.info, "done", summary.fields⟩

/-- Runs a session over a reader to its end. -/
def runSession (reader : Reader) (prompt : Option String) : Report :=
  match Session.start reader .unbounded prompt with
  | .error error => ⟨1, "", explain (.rule error), []⟩
  | .ok session =>
    let outcome := session.run
    let written := outcome.state.sink.text
    let records := outcome.events.map SessionEvent.record
    match outcome.result with
    | .ok summary => ⟨0, written, "", records ++ [doneRecord summary]⟩
    | .error error => ⟨1, written, explain error, records⟩

/-- What a session of the command may read: how files are opened, the standard input, and whether a
user sits at it. -/
structure World where
  openFile : String → Except Failure Reader
  stdin : Reader
  interactive : Bool

def report (world : World) : Request → Report
  | .help => ⟨0, usage, "", []⟩
  | .version => ⟨0, versionText, "", []⟩
  | .unknownOption option => ⟨1, usage, "error: unknown option '" ++ option ++ "'\n\n", []⟩
  | .unexpectedArgument argument =>
    ⟨1, "", "error: unexpected argument '" ++ argument ++ "'\n", []⟩
  | .session path prompt =>
    match path.filter (· != "-") with
    | none =>
      runSession world.stdin
        (if prompt && world.interactive then some Session.interactivePrompt else none)
    | some path =>
      match world.openFile path with
      -- nobody sits at a file, so there is no prompt
      | .ok reader => runSession reader none
      | .error failure =>
        ⟨1, "", "error: cannot open '" ++ path ++ "': " ++ failure.message ++ "\n", []⟩

/-- The exit code of a command that stops at an argument that is no text. -/
def stoppedCode : Nat := 101

def runIn (environment : Environment) (world : World) (arguments : List Argument) : Answer :=
  match request arguments with
  | .error bytes => ⟨stoppedCode, "", environment.logged [] ++ environment.complaint bytes⟩
  | .ok request => (report world request).answer environment

/-- Runs the command on texts where no log is asked for. -/
def run (world : World) (arguments : List String) : Answer :=
  runIn .plain world (arguments.map .text)

end Command

end Linewise
