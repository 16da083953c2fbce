import AmountReport.Proofs.Report.Intake

/-!
# Sinks of limited room

A sink that is too small cuts the report off and changes nothing before the cut. Where the cut falls
makes no difference: inside a report line, even inside a character, or on the line end.

Main statement: the run on a sink of limited room is the run on one of any room, or that run up to the
line that finds no room (`run_truncates`).
-/

namespace AmountReport

/-- **A sink that runs out of room only truncates.** Of what the run writes to a sink of any room, one
of limited room holds as much as it can. If that is all, the runs are the same. If not, the limited run
fails for want of room, whatever would have gone wrong later, without a flush, and it has gone as far
as the first line whose bytes exceed the room: it has put that line to the validator and told it to the
log, and none behind it. -/
theorem run_truncates (judge : Validator) (source : Source) (flushFault : Option Fault)
    (room : Nat) :
    let whole := run judge source { flushFault := flushFault }
    let limited := run judge source { room := some room, flushFault := flushFault }
    limited.output = whole.output.take room ∧
      (whole.output.length ≤ room → limited = whole) ∧
      (room < whole.output.length →
        limited.outcome = .error (.io .noRoom) ∧ limited.flushes = 0 ∧
          ∃ k, (report judge (whole.asked.take k)).length ≤ room ∧
            room < (report judge (whole.asked.take (k + 1))).length ∧
            limited.asked = whole.asked.take (k + 1) ∧
            limited.events = whole.events.take (k + 1)) ∧
      whole.output = report judge whole.asked ∧
      List.Forall₂ (fun text event => ∃ number, event = Event.classified number (judge.entry text))
        whole.asked whole.events := by
  intro whole limited
  have unlimited : whole = source.intake.run judge { flushFault := flushFault } :=
    run_eq_of_fits judge (Sink.fits_of_room_eq_none rfl)
  have output : whole.output = report judge source.intake.texts := by rw [unlimited]; rfl
  have asked : whole.asked = source.intake.texts := by rw [unlimited]; rfl
  have events : whole.events = Event.ofLines judge 0 source.intake.lines := by rw [unlimited]; rfl
  have told := Event.forall₂_ofLines judge 0 source.intake.lines
  rw [output, asked, events]
  by_cases fits : (report judge source.intake.texts).length ≤ room
  · have same : limited = whole := by
      rw [unlimited]
      refine run_eq_of_fits judge fun n hn => ?_
      cases hn
      exact fits
    refine ⟨?_, fun _ => same, fun small => absurd fits (Nat.not_le.2 small), rfl, told⟩
    rw [same, output, List.take_of_length_le fits]
  · have small : Sink.room { room := some room, flushFault := flushFault } = some room := rfl
    obtain ⟨k, least, exceeds, stopped⟩ := run_eq_of_not_fits judge small (Nat.lt_of_not_le fits)
    have ended : limited = _ := stopped
    refine ⟨by rw [ended]; rfl, fun h => absurd h fits, fun _ => ?_, rfl, told⟩
    rw [ended]
    exact ⟨rfl, rfl, k, least, exceeds, rfl, rfl⟩

/-- Room that ends inside the three bytes of the arrow of the first report line: the fault of reading
behind it is not met. -/
theorem run_truncates_inside_arrow :
    let source : Source := [.data [0x31, 0x0A, 0x32], .fault (.ofErrno 5)]
    let whole := run (· == "1") source {}
    let limited := run (· == "1") source { room := some 28 }
    whole.output.length = 40 ∧ whole.outcome = .error (.io (.ofErrno 5)) ∧
      limited.output = whole.output.take 28 ∧ limited.outcome = .error (.io .noRoom) ∧
      limited.flushes = 0 ∧ limited.asked = ["1"] := by
  intro source whole limited
  have length : whole.output.length = 40 := by decide +kernel
  have outcome : whole.outcome = .error (.io (.ofErrno 5)) := by decide +kernel
  have asked : whole.asked = ["1"] := by decide +kernel
  obtain ⟨output, -, cut, -⟩ := run_truncates (· == "1") source none 28
  obtain ⟨failed, flushes, k, -, -, told, -⟩ := cut (by show 28 < whole.output.length; omega)
  refine ⟨length, outcome, output, failed, flushes, told.trans ?_⟩
  rw [asked, List.take_succ_cons, List.take_nil]

end AmountReport
