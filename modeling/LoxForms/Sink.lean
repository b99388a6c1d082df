/-! # Sinks

Where written text goes.  A sink keeps every byte it has accepted.  It may have room for only so
many bytes in all; a write that crosses that limit stores what still fits, and a write with no
room left is refused, either with an error or by accepting nothing.
-/

namespace LoxForms

inductive SinkError where
  /-- The sink has no room left. -/
  | full
  /-- The sink has stopped accepting bytes. -/
  | incomplete
  | flushFailed
deriving DecidableEq, Repr

def SinkError.message : SinkError → String
  | .full => "sink full"
  | .incomplete => "failed to write whole buffer"
  | .flushFailed => "flush failed"

structure Sink where
  stored : Array UInt8 := #[]
  /-- How many bytes the sink accepts in all. -/
  limit : Option Nat := none
  /-- Whether a sink without room accepts nothing instead of failing. -/
  isSilent : Bool := false
  flushFails : Bool := false
  /-- How often the sink was flushed, failed attempts included. -/
  flushes : Nat := 0
deriving DecidableEq, Repr

namespace Sink

/-- How many of so many further bytes fit. -/
def accepted (sink : Sink) (size : Nat) : Nat :=
  match sink.limit with
  | none => size
  | some limit => min size (limit - sink.stored.size)

/-- A single write: the number of bytes that were accepted. -/
def write (sink : Sink) (bytes : Array UInt8) : Except SinkError Nat × Sink :=
  let accepted := sink.accepted bytes.size
  if accepted = 0 ∧ bytes ≠ #[] ∧ !sink.isSilent then (.error .full, sink)
  else (.ok accepted, { sink with stored := sink.stored ++ bytes.extract 0 accepted })

/-- Writes until all bytes are accepted or one write fails or accepts nothing. -/
def writeAll (sink : Sink) (bytes : Array UInt8) : Except SinkError Unit × Sink :=
  if bytes.size = 0 then (.ok (), sink)
  else
    match sink.write bytes with
    | (.error failure, after) => (.error failure, after)
    | (.ok 0, after) => (.error .incomplete, after)
    | (.ok (count + 1), after) => after.writeAll (bytes.extract (count + 1))
termination_by bytes.size
decreasing_by simp only [Array.size_extract]; omega

/-- Writes a text and a line feed after it. -/
def writeLine (sink : Sink) (line : String) : Except SinkError Unit × Sink :=
  match sink.writeAll line.toUTF8.data with
  | (.error failure, after) => (.error failure, after)
  | (.ok (), after) => after.writeAll "\n".toUTF8.data

def flush (sink : Sink) : Except SinkError Unit × Sink :=
  (if sink.flushFails then .error .flushFailed else .ok (),
    { sink with flushes := sink.flushes + 1 })

/-- The stored bytes as text.  What is left of a character that the limit has cut counts as one
replacement character. -/
def text (sink : Sink) : String :=
  let isText (size : Nat) : Bool := (String.fromUTF8? ⟨sink.stored.extract 0 size⟩).isSome
  let size := sink.stored.size
  let whole := ([size, size - 1, size - 2, size - 3].find? isText).getD 0
  let head := (String.fromUTF8? ⟨sink.stored.extract 0 whole⟩).getD ""
  if whole = size then head else head.push '\ufffd'

end Sink

end LoxForms
