import AmountReport.Proofs.Report.Intake
import AmountReport.Proofs.Stream.Joining

/-!
# Runs on joined input

A run does to input behind input what two runs do to the parts, if the parts meet between two lines
(`Run.Joins`): then the lines are those of the one and those of the other (`joins_of_intake`). They meet so
behind a line feed, and behind a carriage return that no line feed follows. A line feed that follows one
belongs to the line end, so it adds nothing.

Main statement: a run is compatible with joining at line ends (`run_joins_at_line_ends`).
-/

namespace AmountReport

/-- A run has done what a run that succeeds and then another have done: it has written the same and put
the same texts to the validator, and it ends as the second does, but with the counts of both. -/
structure Run.Joins (whole first second : Run) : Prop where
  output : whole.output = first.output ++ second.output
  asked : whole.asked = first.asked ++ second.asked
  succeeds : ∃ summary, first.outcome = .ok summary
  fails : ∀ failure, whole.outcome = .error failure ↔ second.outcome = .error failure
  sums : ∀ s t, first.outcome = .ok s → second.outcome = .ok t → whole.outcome = .ok (s + t)

theorem Summary.of_append (judge : Validator) (a b : List (List Char)) :
    Summary.of judge (a ++ b) = .of judge a + .of judge b := by
  simp only [Summary.of, Text.trimmed_append, List.countP_append]
  rfl

namespace Source

variable {a : Source} {s : List Char}

theorem Brings.cut (h : a.Brings s) : a.cut = ⟨(Text.pieces '\n' s).map Utf8.encode, none⟩ := by
  rw [cut_of_arrivals h.1 h.2, pieces_encode]

theorem Brings.intake (h : a.Brings s) : a.intake = ⟨Text.lines s, none⟩ := by
  rw [Source.intake, h.cut, Intake.of_map_encode, Text.lines_eq_flatMap_pieceLines]

/-- **Behind a line feed** anything brings what it brings alone. -/
theorem intake_append (h : a.Brings s) (ended : s = [] ∨ s.getLast? = some '\n') (b : Source) :
    Source.intake (a ++ b) = ⟨Text.lines s ++ b.intake.lines, b.intake.fault⟩ := by
  have pieces := h.cut
  have closed : ∀ piece ∈ a.cut.pieces, piece.getLast? = some lineFeed := by
    rw [pieces]
    intro piece hp
    obtain ⟨part, hpart, rfl⟩ := List.mem_map.1 hp
    obtain ⟨body, rfl⟩ := List.getLast?_eq_some_iff.1 (Text.getLast?_of_mem_pieces ended part hpart)
    rw [Utf8.encode_append, List.getLast?_append]
    rfl
  rw [Source.intake, cut_append h.1 (by rw [pieces]) closed, pieces, Intake.of_map_encode_append,
    ← Text.lines_eq_flatMap_pieceLines]
  rfl

end Source

/-- **Runs join if the lines of their input do.** -/
theorem joins_of_intake (judge : Validator) {whole first second : Source}
    (sound : first.intake.fault = none)
    (lines : whole.intake = ⟨first.intake.lines ++ second.intake.lines, second.intake.fault⟩) :
    Run.Joins (run judge whole {}) (run judge first {}) (run judge second {}) := by
  have unlimited (source : Source) : run judge source {} = source.intake.run judge {} :=
    run_eq_of_fits judge (Sink.fits_of_room_eq_none rfl)
  have texts : whole.intake.texts = first.intake.texts ++ second.intake.texts := by
    rw [lines, Intake.texts, Intake.texts, Intake.texts, Text.trimmed_append]
  have fault : whole.intake.fault = second.intake.fault := by rw [lines]
  have counted : Summary.of judge whole.intake.lines =
      .of judge first.intake.lines + .of judge second.intake.lines := by
    rw [lines, Summary.of_append]
  have ok := Intake.outcome_of_sound judge sound (rfl : Sink.flushFault {} = none)
  rw [unlimited, unlimited, unlimited]
  constructor
  · show [] ++ report judge whole.intake.texts =
      ([] ++ report judge first.intake.texts) ++ ([] ++ report judge second.intake.texts)
    rw [List.nil_append, List.nil_append, List.nil_append, texts, report_append]
  · exact texts
  · exact ⟨_, ok⟩
  · intro failure
    cases broken : second.intake.fault with
    | none =>
      rw [Intake.outcome_of_sound judge broken rfl,
        Intake.outcome_of_sound judge (fault.trans broken) rfl]
      simp
    | some cause =>
      rw [Intake.outcome_of_fault judge broken, Intake.outcome_of_fault judge (fault.trans broken)]
  · intro s t hs ht
    obtain rfl : Summary.of judge first.intake.lines = s := Except.ok.inj (ok.symm.trans hs)
    cases broken : second.intake.fault with
    | none =>
      rw [Intake.outcome_of_sound judge broken rfl] at ht
      rw [Intake.outcome_of_sound judge (fault.trans broken) rfl, counted, Except.ok.inj ht]
    | some cause =>
      rw [Intake.outcome_of_fault judge broken] at ht
      cases ht

/-- **A run is compatible with joining its input at line ends.** Behind a text that is empty or ends with a
line feed there can be anything, with faults and bytes that are no UTF-8. Behind one that ends with a
carriage return there can be any text that does not begin with a line feed; and if it does, it is reported
as if it did not. -/
theorem run_joins_at_line_ends (judge : Validator) :
    (∀ (a b : Source) (s : List Char), a.Brings s → s = [] ∨ s.getLast? = some '\n' →
      Run.Joins (run judge (a ++ b) {}) (run judge a {}) (run judge b {})) ∧
    (∀ (a b : Source) (s t : List Char), a.Brings s → b.Brings t → s.getLast? = some '\r' →
      t.head? ≠ some '\n' →
      Run.Joins (run judge (a ++ b) {}) (run judge a {}) (run judge b {})) ∧
    ∀ (a b rest : Source) (s t : List Char), a.Brings s → b.Brings ('\n' :: t) → rest.Brings t →
      s.getLast? = some '\r' →
      Run.Joins (run judge (a ++ b) {}) (run judge a {}) (run judge rest {}) := by
  refine ⟨?_, ?_, ?_⟩
  · intro a b s first ended
    refine joins_of_intake judge (by rw [first.intake]) ?_
    rw [Source.intake_append first ended b, first.intake]
  · intro a b s t first second ended alone
    refine joins_of_intake judge (by rw [first.intake]) ?_
    rw [(first.append second).intake, first.intake, second.intake,
      Text.lines_append_of_carriageReturn ended alone]
  · intro a b rest s t first second dropped ended
    refine joins_of_intake judge (by rw [first.intake]) ?_
    rw [(first.append second).intake, first.intake, dropped.intake,
      Text.lines_append_lineFeed_cons ended]

/-- Behind a line feed comes input with a gap, bytes that are no UTF-8 and a fault of reading. Behind a
carriage return comes another, and a blank line between them; a line feed there is no line. -/
theorem run_joins_behind_each_line_end :
    let judge : Validator := (· == "1")
    let line : Source := [.data [0x31], .fault (.ofErrno 4), .data [0x0A]]
    let broken : Source :=
      [.data [0x32], .data [], .data [0x33, 0x0A, 0xFF], .fault (.ofErrno 5)]
    let returned : Source := [.data [0x31, 0x0D]]
    let blank : Source := [.data [0x0D, 0x32]]
    let fed : Source := [.data [0x0A, 0x32]]
    let alone : Source := [.data [0x32]]
    Run.Joins (run judge (line ++ broken) {}) (run judge line {}) (run judge broken {}) ∧
      (run judge (line ++ broken) {}).asked = ["1", "2", "3"] ∧
      (run judge (line ++ broken) {}).outcome = .error (.io (.ofErrno 5)) ∧
      Run.Joins (run judge (returned ++ blank) {}) (run judge returned {}) (run judge blank {}) ∧
      (run judge (returned ++ blank) {}).outcome = .ok ⟨1, 1, 1⟩ ∧
      Run.Joins (run judge (returned ++ fed) {}) (run judge returned {}) (run judge alone {}) ∧
      (run judge (returned ++ fed) {}).outcome = .ok ⟨1, 1, 0⟩ := by
  intro judge line broken returned blank fed alone
  obtain ⟨lineFeed, carriageReturn, dropped⟩ := run_joins_at_line_ends judge
  have first : line.Brings ['1', '\n'] := by decide
  have second : returned.Brings ['1', '\r'] := by decide
  have behind : blank.Brings ['\r', '2'] := by decide
  have whole : fed.Brings ['\n', '2'] := by decide
  have rest : alone.Brings ['2'] := by decide
  refine ⟨lineFeed line broken _ first (.inr rfl), by decide +kernel, by decide +kernel,
    carriageReturn returned blank _ _ second behind rfl (by decide), by decide +kernel,
    dropped returned fed alone _ _ second whole rest rfl, by decide +kernel⟩

end AmountReport
