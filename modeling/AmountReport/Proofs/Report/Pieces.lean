import AmountReport.Proofs.Fold
import AmountReport.Proofs.Stream.Pieces
import AmountReport.Report.Run

/-!
# Runs piece by piece

A run is a fold over the pieces that a reader gets (`consume_eq_follow_cut`), so of the source it sees
only what arrives, not in which refills.

Main statement: sources with the same input make the same run (`run_eq_of_settled_eq`).
-/

namespace AmountReport

namespace Progress

/-- Reports pieces up to the first fault: one in a piece, or the one behind the last piece. -/
def follow (judge : Validator) (p : Progress) (cut : Cut) : Except Halted Progress :=
  match cut.pieces.foldlM (Progress.piece judge) p with
  | .error halted => .error halted
  | .ok p =>
    match cut.fault with
    | none => .ok p
    | some fault => .error ⟨fault, p⟩

section
variable {judge : Validator} {p q : Progress} {bytes : List UInt8} {cut : Cut}

theorem follow_cons_ok (h : p.piece judge bytes = .ok q) :
    p.follow judge (cut.cons bytes) = q.follow judge cut := by
  simp only [follow, Cut.cons, foldlM_cons_ok h]

theorem follow_cons_error {halted : Halted} (h : p.piece judge bytes = .error halted) :
    p.follow judge (cut.cons bytes) = .error halted := by
  simp only [follow, Cut.cons, foldlM_cons_error h]

end

/-- **A run follows the pieces that a reader gets.** -/
theorem consume_eq_follow_cut (judge : Validator) (p : Progress) (source : Source) :
    p.consume judge source = p.follow judge source.cut := by
  fun_induction consume judge p source with
  | case1 p source fault rest read =>
    rw [Source.cut, read]
    rfl
  | case2 p source rest read =>
    rw [Source.cut, read]
    rfl
  | case3 p source b bytes rest read halted failed =>
    rw [Source.cut, read, follow_cons_error failed]
  | case4 p source b bytes rest read q done ih =>
    rw [Source.cut, read, follow_cons_ok done, ih]

/-- **A run follows the pieces of its input.** -/
theorem consume_eq_follow (judge : Validator) (p : Progress) {source : Source}
    (gapless : source.Gapless) :
    p.consume judge source = p.follow judge (Cut.of [] source.arrivals) := by
  rw [consume_eq_follow_cut, Source.cut_of_gapless gapless]

/-- A run on bytes that are delivered follows their pieces. -/
theorem consume_of_delivers (judge : Validator) (p : Progress) {source : Source} {bytes : List UInt8}
    (h : source.Delivers bytes) :
    p.consume judge source = p.follow judge (Cut.of [] (bytes.map .byte)) := by
  rw [consume_eq_follow_cut, Source.cut_of_delivers h]

end Progress

/-- **How the input arrives does not show.** Two sources without empty refills that are the same once
settled, whatever interruptions they have and wherever their refills are cut, make the same run: the
same outcome, output, flushes, questions and events, whatever room the sink has and whether it can be
flushed. -/
theorem run_eq_of_settled_eq (judge : Validator) (sink : Sink) {s t : Source} (hs : s.Gapless)
    (ht : t.Gapless) (same : s.settled = t.settled) : run judge s sink = run judge t sink := by
  have arrivals : s.arrivals = t.arrivals := by
    rw [← Source.arrivals_settled s, same, Source.arrivals_settled t]
  unfold run
  rw [Progress.consume_eq_follow judge _ hs, Progress.consume_eq_follow judge _ ht, arrivals]

/-- A letter of two bytes and the line end behind it, each cut in two and the letter interrupted, make
the run that they make in one refill, here with a sink that is full inside the second report line. -/
theorem run_cut_letter_and_line_end :
    let cut : Source :=
      [.data [0xC3], .fault (.ofErrno 4), .data [0xA9, 0x0D], .data [0x0A, 0x31]]
    let whole : Source := [.data [0xC3, 0xA9, 0x0D, 0x0A, 0x31]]
    let sink : Sink := { room := some 50, flushFault := some .noRoom }
    cut.Gapless ∧ whole.Gapless ∧ cut.settled = whole.settled ∧
      run (· == "1") cut sink = run (· == "1") whole sink :=
  ⟨by decide, by decide, rfl, run_eq_of_settled_eq _ _ (by decide) (by decide) rfl⟩

end AmountReport
