import AmountReport.Proofs.Stream.Pieces

/-!
# Input with gaps

A refill without bytes looks like the end of the input to a reader, but only once: if it ends the
piece that the reader is at, the reader asks for another piece and gets what is behind the gap. So what
is read is one stretch of input after the other, up to a gap that the reader meets between two pieces.

Main statement: the pieces that a reader gets are those of the stretches
(`pieces_cut_of_fault_eq_none`), so input without gaps is one stretch, and gaps end pieces and nothing
else.
-/

namespace AmountReport

namespace Source

/-- The bytes between the gaps, `pending` being what is read since the last one. A gap at which no
piece is begun ends the input. -/
def stretches (pending : List UInt8) : Source → List (List UInt8)
  | [] => [pending]
  | .fault _ :: more => stretches pending more
  | .data [] :: more =>
    if pending = [] ∨ pending.getLast? = some lineFeed then [pending]
    else pending :: stretches [] more
  | .data (b :: bytes) :: more => stretches (pending ++ b :: bytes) more

theorem stretches_of_gapless {source : Source} (gapless : source.Gapless) (pending : List UInt8) :
    source.stretches pending = [pending ++ source.data] := by
  induction source generalizing pending with
  | nil => simp [stretches, data]
  | cons refill more ih =>
    cases refill with
    | fault fault => exact ih gapless.tail pending
    | data bytes =>
      cases bytes with
      | nil => exact absurd List.mem_cons_self gapless
      | cons b bytes => rw [stretches, ih gapless.tail, data, List.append_assoc]

theorem stretches_putBack (pending bytes : List UInt8) (more : Source) :
    (putBack bytes more).stretches pending = stretches (pending ++ bytes) more := by
  cases bytes with
  | nil => rw [List.append_nil]; rfl
  | cons b bytes => rfl

/-- Pieces that have ended can be taken off in front. -/
theorem flatMap_pieces_stretches_append {ended : List UInt8}
    (he : ended = [] ∨ ended.getLast? = some lineFeed) (pending : List UInt8) (source : Source) :
    (source.stretches (ended ++ pending)).flatMap (Text.pieces lineFeed) =
      Text.pieces lineFeed ended ++ (source.stretches pending).flatMap (Text.pieces lineFeed) := by
  have front := Text.pieces_append_of_ended he
  induction source generalizing pending with
  | nil => simp [stretches, front]
  | cons refill more ih =>
    cases refill with
    | fault fault => exact ih pending
    | data bytes =>
      cases bytes with
      | cons b bytes =>
        rw [stretches, stretches, List.append_assoc]
        exact ih _
      | nil =>
        -- whether a piece is begun does not depend on the pieces that have ended
        have same : (ended ++ pending = [] ∨ (ended ++ pending).getLast? = some lineFeed) ↔
            (pending = [] ∨ pending.getLast? = some lineFeed) := by
          by_cases none : pending = []
          · subst none
            simpa using he
          · simp [none]
        rw [stretches, stretches]
        simp only [same]
        split <;> simp [front]

/-- A reader gets the first piece of the stretches, or finds that there is none. -/
theorem flatMap_pieces_stretches_readPiece {pending : List UInt8} (unended : lineFeed ∉ pending)
    (source : Source) :
    match source.readPiece pending with
    | (.error _, _) => True
    | (.ok [], _) => (source.stretches pending).flatMap (Text.pieces lineFeed) = []
    | (.ok (b :: bytes), rest) =>
      (source.stretches pending).flatMap (Text.pieces lineFeed) =
        (b :: bytes) :: (rest.stretches []).flatMap (Text.pieces lineFeed) := by
  have single {p : List UInt8} (ne : p ≠ []) (h : lineFeed ∉ p) : Text.pieces lineFeed p = [p] :=
    Text.pieces_eq_singleton ne fun m => h (List.dropLast_subset _ m)
  fun_induction Source.readPiece pending source with
  | case1 pending =>
    cases pending with
    | nil => rfl
    | cons b bytes =>
      rw [stretches, List.flatMap_singleton, single (List.cons_ne_nil _ _) unended]
      rfl
  | case2 pending fault more interrupted ih => exact ih unended
  | case3 => trivial
  | case4 pending more =>
    cases pending with
    | nil => rfl
    | cons b bytes =>
      have begun : ¬ (b :: bytes = [] ∨ (b :: bytes).getLast? = some lineFeed) := by
        rintro (e | e)
        · cases e
        · exact unended (List.mem_of_getLast? e)
      rw [stretches, if_neg begun, List.flatMap_cons, single (List.cons_ne_nil _ _) unended]
      rfl
  | case5 pending b bytes more line none ih =>
    have whole : line = pending ++ b :: bytes :=
      congrArg (pending ++ ·) (takeWhile_of_dropWhile_eq_nil none)
    rw [stretches, ← whole]
    refine ih ?_
    simp [line, unended, lineFeed_not_mem_takeWhile]
  | case6 pending b bytes more line delimiter rest found =>
    obtain ⟨rfl, split⟩ := eq_takeWhile_append_of_dropWhile_eq_cons found
    have inside : lineFeed ∉ line := by simp [line, unended, lineFeed_not_mem_takeWhile]
    have piece : Text.pieces lineFeed (line ++ [lineFeed]) = [line ++ [lineFeed]] :=
      Text.pieces_eq_singleton (by simp) (by rwa [List.dropLast_concat])
    have whole : pending ++ b :: bytes = line ++ [lineFeed] ++ rest := by
      simp [line, ← split]
    have ends : line ++ [lineFeed] = [] ∨ (line ++ [lineFeed]).getLast? = some lineFeed := by simp
    have first := flatMap_pieces_stretches_append ends rest more
    have later := stretches_putBack [] rest more
    rw [List.nil_append] at later
    obtain ⟨c, body, e⟩ := List.exists_cons_of_ne_nil (l := line ++ [lineFeed]) (by simp)
    rw [← whole, piece, e] at first
    rw [e]
    simp only [stretches, first, later]
    rfl

/-- **Input that is read to its end is cut stretch by stretch.** -/
theorem pieces_cut_of_fault_eq_none {source : Source} (unbroken : source.cut.fault = none) :
    source.cut.pieces = (source.stretches []).flatMap (Text.pieces lineFeed) := by
  have next := flatMap_pieces_stretches_readPiece List.not_mem_nil source
  fun_induction cut source with
  | case1 => cases unbroken
  | case2 source rest read =>
    rw [read] at next
    exact next.symm
  | case3 source b bytes rest read ih =>
    rw [read] at next
    rw [next, ← ih unbroken (flatMap_pieces_stretches_readPiece List.not_mem_nil rest)]
    rfl

end Source

end AmountReport
