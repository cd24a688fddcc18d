/-!
# Failures — why a device could not be read or written
-/

namespace Linewise

/-- A failure of a device: the name of its kind and what the device says about it. -/
structure Failure where
  kind : String
  message : String
deriving DecidableEq, Repr

namespace Failure

/-- The kind of a read that was interrupted and may simply be tried again. -/
def interruptedKind : String := "Interrupted"

def isInterrupted (failure : Failure) : Bool := failure.kind == interruptedKind

/-- A line whose bytes are no UTF-8 text. -/
def invalidText : Failure := ⟨"InvalidData", "stream did not contain valid UTF-8"⟩

def notFound : Failure := ⟨"NotFound", "No such file or directory (os error 2)"⟩

def isDirectory : Failure := ⟨"IsADirectory", "Is a directory (os error 21)"⟩

def notDirectory : Failure := ⟨"NotADirectory", "Not a directory (os error 20)"⟩

/-- A path, or a name in it, that is too long for any file. -/
def nameTooLong : Failure := ⟨"InvalidFilename", "File name too long (os error 36)"⟩

/-- An output whose other end takes no more bytes. -/
def closedOutput : Failure := ⟨"BrokenPipe", "closed"⟩

/-- An output that cannot pass on what it holds. -/
def failedFlush : Failure := ⟨"Other", "flush failed"⟩

end Failure

end Linewise
