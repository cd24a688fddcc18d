import Linewise.Failure
import Linewise.Text.Utf8

/-!
# Sinks — where a session writes

A sink keeps the bytes written to it.  It may have room for so many bytes only, after which a
write fails with what fits written, and it may pass on what it holds so many times only.
-/

namespace Linewise

/-- The bytes written so far, the number of bytes for which there is room, and the number of times
the sink can still be flushed; nothing means no bound. -/
structure Sink where
  written : List UInt8
  room : Option Nat
  flushes : Option Nat
deriving DecidableEq, Repr

namespace Sink

def unbounded : Sink := ⟨[], none, none⟩

def write (sink : Sink) (text : String) : Except Failure Unit × Sink :=
  let bytes := encodeUtf8 text.toList
  match sink.room with
  | none => (.ok (), { sink with written := sink.written ++ bytes })
  | some room =>
    let after := { sink with
      written := sink.written ++ bytes.take room, room := some (room - bytes.length) }
    (if bytes.length ≤ room then .ok () else .error .closedOutput, after)

def flush (sink : Sink) : Except Failure Unit × Sink :=
  match sink.flushes with
  | none => (.ok (), sink)
  | some 0 => (.error .failedFlush, sink)
  | some (count + 1) => (.ok (), { sink with flushes := some count })

/-- The text of the bytes without up to `cut` bytes at the end, if they are a text then; a
replacement character stands for bytes left out. -/
def textWithout (cut : Nat) (bytes : List UInt8) : List Char :=
  match decodeUtf8? bytes, cut with
  | some text, _ => text
  | none, 0 => ['\ufffd']
  | none, cut + 1 =>
    match decodeUtf8? bytes.dropLast with
    | some text => text ++ ['\ufffd']
    | none => textWithout cut bytes.dropLast

/-- The text written so far.  A character cut off at the end shows as a replacement character. -/
def text (sink : Sink) : String := String.ofList (textWithout 3 sink.written)

end Sink

end Linewise
