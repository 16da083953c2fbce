import AmountReport.Stream.Fault

/-!
# Writing to a sink of limited room

A sink keeps the bytes written to it. One of limited room stores what fits and then fails; one with a
flush fault fails when it is flushed. Flushes are counted, failed ones too.
-/

namespace AmountReport

structure Sink where
  /-- How many more bytes it takes; no number means any. -/
  room : Option Nat := none
  /-- What a flush reports, if it fails. -/
  flushFault : Option Fault := none
  /-- The bytes it holds, the latest first. -/
  stored : List UInt8 := []
  flushes : Nat := 0
  deriving DecidableEq, Repr

namespace Sink

/-- The bytes written, in order. -/
def bytes (s : Sink) : List UInt8 := s.stored.reverse

/-- Adds bytes for which there is room. -/
def store (s : Sink) (bytes : List UInt8) : Sink :=
  { s with
    room := s.room.map (· - bytes.length)
    stored := bytes.reverseAux s.stored }

/-- Writes all of the bytes, or as many as there is room for and then a fault. -/
def write (s : Sink) (bytes : List UInt8) : Option Fault × Sink :=
  match s.room with
  | none => (none, s.store bytes)
  | some room =>
    if bytes.length ≤ room then (none, s.store bytes)
    else (some .noRoom, s.store (bytes.take room))

def flush (s : Sink) : Option Fault × Sink :=
  (s.flushFault, { s with flushes := s.flushes + 1 })

@[simp] theorem bytes_store (s : Sink) (bytes : List UInt8) :
    (s.store bytes).bytes = s.bytes ++ bytes := by
  simp [store, Sink.bytes, List.reverseAux_eq]

end Sink

end AmountReport
