import Linewise.Calculator.Command

/-!
# The program — the command in the world

Gives the command its arguments, files and standard input, and writes what it answers.  A session over
the standard input converses: what a turn writes is shown before the next line is read.  No log is
kept.
-/

namespace Linewise

/-! ## Input -/

/-- The failures of the system, by the names that sessions know. -/
def failureOf : IO.Error → Failure
  | .noFileOrDirectory _ _ _ => .notFound
  | .inappropriateType none _ _ => .isDirectory
  | .inappropriateType (some _) _ _ => .notDirectory
  | .invalidArgument _ _ _ => .nameTooLong
  | error => ⟨"Other", toString error⟩

/-- Opens a file by taking all its bytes.  A directory can be opened but not read; what the system
says of it then names no path. -/
def openForReading (path : String) : IO (Except Failure Reader) := do
  try
    let bytes ← IO.FS.readBinFile path
    return .ok (Reader.ofBytes bytes.toList)
  catch
    | .inappropriateType none _ _ => return .ok ⟨[.failure .isDirectory]⟩
    | error => return .error (failureOf error)

/-- Reads the bytes of a line with its line feed, or what there is in front of an end of input. -/
def readLine (stream : IO.FS.Stream) : IO (List UInt8) :=
  IO.iterate [] fun line => do
    match (← stream.read 1).toList with
    | [] => return .inr line.reverse
    | byte :: _ =>
      if isLineFeed byte then return .inr (byte :: line).reverse
      else return .inl (byte :: line)

/-! ## Conversing -/

/-- The failure that stands behind the input that has arrived. -/
def awaited : Failure := ⟨"WouldBlock", "more input is awaited"⟩

/-- How a line arrives.  An end of input was met behind a line without a line feed. -/
def arrival (line : List UInt8) : List Chunk :=
  if line.getLast?.any isLineFeed then [.data line] else [.data line, .data []]

/-- What the next read from a stream delivers. -/
def nextArrival (stream : IO.FS.Stream) : IO (List Chunk) := do
  try
    return arrival (← readLine stream)
  catch error => return [.failure (failureOf error)]

namespace Session

/-- The session with chunks put in front of what is awaited. -/
def fed (session : Session) (chunks : List Chunk) : Session :=
  match session.lexer.source with
  | .released => session
  | .reading reader =>
    let arrived := reader.chunks.dropLast ++ chunks
    { session with
      lexer := { session.lexer with source := .reading ⟨arrived ++ [.failure awaited]⟩ } }

def isAwaiting : Except CalcError Bool → Bool
  | .error (.lex ⟨_, .device failure⟩) => failure == awaited
  | _ => false

/-- Takes the turns of a session, showing what each of them writes.  A turn that runs out of input is
taken once more when the next line is there; of what it writes then, `shown` bytes are known. -/
def converse (session : Session) (stdin stdout : IO.FS.Stream) : IO (Except CalcError Unit) :=
  IO.iterate (session, 0) fun (session, shown) => do
    let turn := session.turn
    let written := turn.state.sink.written
    stdout.write ⟨(written.drop shown).toArray⟩
    stdout.flush
    if isAwaiting turn.result then
      return .inl (session.fed (← nextArrival stdin), written.length)
    match turn.result with
    | .ok true => return .inl ({ turn.state with sink := .unbounded }, 0)
    | .ok false => return .inr (.ok ())
    | .error error => return .inr (.error error)

end Session

namespace Command

/-- Runs a session over the standard input and gives the exit code. -/
def runStdin (prompt : Option String) : IO UInt32 := do
  let outcome ← match Session.start ⟨[.failure awaited]⟩ .unbounded prompt with
    | .error error => pure (.error (.rule error))
    | .ok session => session.converse (← IO.getStdin) (← IO.getStdout)
  match outcome with
  | .ok () => return 0
  | .error error =>
    IO.eprint (explain error)
    return 1

/-- Writes a report without its log and gives the exit code. -/
def write (report : Report) : IO UInt32 := do
  IO.print report.stdout
  IO.eprint report.explanation
  return UInt32.ofNat report.code

end Command

end Linewise

open Linewise in
/-- Runs the command and gives its exit code. -/
def main (arguments : List String) : IO UInt32 := do
  match Command.request (arguments.map .text) with
  -- texts are never an error
  | .error _ => return UInt32.ofNat Command.stoppedCode
  | .ok (.session none prompt) | .ok (.session (some "-") prompt) =>
    let interactive ← (← IO.getStdin).isTty
    Command.runStdin (if prompt && interactive then some Session.interactivePrompt else none)
  | .ok request =>
    let file ← match request with
      | .session (some path) _ => openForReading path
      | _ => pure (.error .notFound)
    Command.write (Command.report ⟨fun _ => file, ⟨[]⟩, false⟩ request)
