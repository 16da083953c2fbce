import AmountReport.Stream.Fault

/-!
# Reading pieces from refills

Input arrives in refills: some bytes at a time, or a fault. `readPiece` puts together one piece of
it, the bytes up to and including the next line feed, from as many refills as that takes. An
interruption is not reported but tried again, any other fault ends the piece and loses what was
read of it. A refill without bytes ends a piece as the end of input does; what comes after it is
there for the next piece. So an empty piece means that there was nothing to read.
-/

namespace AmountReport

/-- What one attempt to get more input brings. -/
inductive Refill
  | data (bytes : List UInt8)
  | fault (fault : Fault)
  deriving DecidableEq, Repr

/-- The refills to come. After the last one the input has ended. -/
abbrev Source := List Refill

/-- The byte that ends a piece. -/
def lineFeed : UInt8 := 0x0A

namespace Source

/-- Input that arrives at once. -/
def ofBytes (bytes : List UInt8) : Source := [.data bytes]

/-- The most bytes that a file gives at a time. -/
def blockSize : Nat := 8192

/-- Input that arrives in full blocks, the last of which may be shorter. -/
def inBlocks (bytes : List UInt8) : Source :=
  if bytes.isEmpty then []
  else .data (bytes.take blockSize) :: inBlocks (bytes.drop blockSize)
termination_by bytes.length
decreasing_by
  cases bytes with
  | nil => contradiction
  | cons b bytes => simp only [List.length_drop, List.length_cons, blockSize]; omega

/-- Leaves the unread bytes of a refill in front. -/
def putBack (bytes : List UInt8) (more : Source) : Source :=
  if bytes.isEmpty then more else .data bytes :: more

/-- The next piece, `pending` being what is read of it, and the refills left after it. -/
def readPiece (pending : List UInt8) : Source → Except Fault (List UInt8) × Source
  | [] => (.ok pending, [])
  | .fault fault :: more =>
    if fault.kind = .interrupted then readPiece pending more else (.error fault, more)
  | .data [] :: more => (.ok pending, more)
  | .data (b :: bytes) :: more =>
    let line := pending ++ (b :: bytes).takeWhile (· != lineFeed)
    match (b :: bytes).dropWhile (· != lineFeed) with
    | [] => readPiece line more
    | delimiter :: rest => (.ok (line ++ [delimiter]), putBack rest more)

/-- How much is left: a bound on the number of pieces. -/
def size : Source → Nat
  | [] => 0
  | .data bytes :: more => bytes.length + 1 + size more
  | .fault _ :: more => 1 + size more

theorem size_putBack_le (bytes : List UInt8) (more : Source) :
    size (putBack bytes more) ≤ bytes.length + 1 + size more := by
  unfold putBack
  split
  · omega
  · simp [size]

/-- Reading uses up part of a source that has any. -/
theorem size_readPiece_lt (pending : List UInt8) (source : Source) (h : source ≠ []) :
    size (readPiece pending source).2 < size source := by
  induction source generalizing pending with
  | nil => exact absurd rfl h
  | cons refill more ih =>
    have later (pending) : size (readPiece pending more).2 ≤ size more := by
      by_cases hm : more = []
      · subst hm; simp [readPiece, size]
      · exact Nat.le_of_lt (ih pending hm)
    match refill with
    | .fault fault =>
      have := later pending
      simp only [readPiece, size]
      split
      · omega
      · simp only; omega
    | .data [] => simp only [readPiece, size]; omega
    | .data (b :: bytes) =>
      simp only [readPiece, size]
      split
      · have := later (pending ++ (b :: bytes).takeWhile (· != lineFeed))
        omega
      · rename_i delimiter rest e
        have counted := congrArg List.length
          (List.takeWhile_append_dropWhile (p := (· != lineFeed)) (l := b :: bytes))
        have := size_putBack_le rest more
        rw [e] at counted
        simp only [List.length_append, List.length_cons] at counted ⊢
        omega

theorem size_lt_of_readPiece {source rest : Source} {b : UInt8} {bytes : List UInt8}
    (h : source.readPiece [] = (.ok (b :: bytes), rest)) : rest.size < source.size := by
  have := size_readPiece_lt [] source (by rintro rfl; simp [readPiece] at h)
  rwa [h] at this

end Source

end AmountReport
