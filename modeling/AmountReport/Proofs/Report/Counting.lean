import AmountReport.Amount.Pattern
import AmountReport.Proofs.Report.Events

/-!
# How far lines are counted

A run counts the lines of each sort without a bound, but the number that it tells the log with a line is
kept in a signed word of thirty-two bits. Nothing stops the run when the word is full: it wraps, and from
line 2³¹ on it is never the number of the line (`record_classified_eq_iff`). Input with so many lines is
accepted like any other, as any number of empty lines may stand before a text (`run_behind_empty_lines`).

Main statement: the log has the numbers of lines modulo 2³², and has the true ones exactly if it tells of
no line as late as that (`run_tells_wrapped_numbers`).
-/

namespace AmountReport

/-- The record of a line by the word that counts it: the number modulo 2³², with a sign. -/
def wrappedRecordOf (number : Nat) (entry : Entry) : Log.Record :=
  { recordOf number entry with
    fields := [("line_number", .number ((number : Int).bmod 0x100000000)),
      ("verdict", .text entry.verdict.label)] }

/-! ## Words -/

section
variable {number : Nat} {entry : Entry}

theorem toInt_ofNat_eq_iff : (Int32.ofNat number).toInt = number ↔ number < 0x80000000 := by
  constructor
  · intro same
    have bound := (Int32.ofNat number).toInt_lt
    omega
  · exact Int32.toInt_ofNat_of_lt

theorem record_classified_eq_wrapped (number : Nat) (entry : Entry) :
    (Event.classified (Int32.ofNat number) entry).record = wrappedRecordOf number entry := by
  rw [Event.record, Int32.toInt_ofNat']
  rfl

/-- What the log is told of a line is true exactly if the number fits the word. -/
theorem record_classified_eq_iff :
    (Event.classified (Int32.ofNat number) entry).record = recordOf number entry ↔
      number < 0x80000000 := by
  rw [← toInt_ofNat_eq_iff, Event.record, recordOf]
  simp only [Log.Record.mk.injEq, List.cons.injEq, Prod.mk.injEq, Log.Field.number.injEq, true_and,
    and_true]

end

/-! ## Empty lines in front -/

theorem Utf8.encode_replicate_lineFeed (n : Nat) :
    encode (List.replicate n '\n') = List.replicate n lineFeed := by
  induction n with
  | zero => rfl
  | succ n ih =>
    rw [List.replicate_succ, List.replicate_succ, ← ih]
    rfl

/-- Line feeds in front of a text are empty lines. -/
theorem Text.lines_replicate_append (n : Nat) (text : List Char) :
    lines (List.replicate n '\n' ++ text) = List.replicate n [] ++ lines text := by
  induction n with
  | zero => rfl
  | succ n ih =>
    rw [List.replicate_succ, List.cons_append, lines_cons_lineFeed, ih]
    rfl

/-- Behind empty lines the others have later numbers. -/
theorem numberedFrom_replicate_append (judge : Validator) (first n : Nat) (lines : List (List Char)) :
    numberedFrom judge first (List.replicate n [] ++ lines) = numberedFrom judge (first + n) lines := by
  induction n generalizing first with
  | zero => rfl
  | succ n ih =>
    rw [List.replicate_succ, List.cons_append, numberedFrom_cons, if_pos List.all_nil, ih,
      Nat.add_right_comm]
    rfl

/-- **Any text is reported behind any number of empty lines**, with later numbers for its lines. -/
theorem run_behind_empty_lines (judge : Validator) (n : Nat) (text : List Char) :
    let source := Source.ofBytes (List.replicate n lineFeed ++ Utf8.encode text)
    let r := run judge source {}
    (∃ summary, r.outcome = .ok summary ∧ summary.lines = n + (Text.lines text).length) ∧
      numberedFrom judge 1 source.intake.lines = numberedFrom judge (n + 1) (Text.lines text) ∧
      r.events = (numberedFrom judge (n + 1) (Text.lines text)).map
        fun (number, entry) => .classified (Int32.ofNat number) entry := by
  intro source r
  have intake : source.intake = ⟨List.replicate n [] ++ Text.lines text, none⟩ := by
    rw [Source.intake_ofBytes, ← Utf8.encode_replicate_lineFeed, ← Utf8.encode_append,
      Intake.of_pieces_encode, Text.lines_replicate_append]
  have done : r = source.intake.run judge {} :=
    run_eq_of_fits judge (Sink.fits_of_room_eq_none rfl)
  have numbers : numberedFrom judge 1 source.intake.lines =
      numberedFrom judge (n + 1) (Text.lines text) := by
    rw [intake, numberedFrom_replicate_append, Nat.add_comm 1 n]
  refine ⟨⟨.of judge source.intake.lines, ?_, ?_⟩, numbers, ?_⟩
  · rw [done, Intake.outcome_of_sound judge (by rw [intake]) rfl]
  · rw [Summary.lines_of, intake, List.length_append, List.length_replicate]
  · rw [done, ← numbers]
    exact Event.ofLines_zero_eq _

/-! ## The numbers of a run -/

/-- The events of a run are the first of those that its source brings. -/
theorem events_run_isPrefix (judge : Validator) (source : Source) (sink : Sink) :
    (run judge source sink).events <+: Event.ofLines judge 0 source.intake.lines := by
  obtain ⟨m, -, -, events⟩ := exists_take_of_run judge source sink
  rw [events]
  exact List.take_prefix _ _

/-- **The log has the numbers of lines modulo 2³²**, with a sign: in every run, for each line that it
classifies, whether the run succeeds or not. They are the numbers of the lines exactly if none of these is
2³¹ or above. A run that succeeds has told the log of all lines that are not blank, and its summary counts
all lines without a bound. -/
theorem run_tells_wrapped_numbers (judge : Validator) (source : Source) (sink : Sink) :
    let r := run judge source sink
    let lines := source.intake.lines
    let told := (numberedFrom judge 1 lines).take r.events.length
    (r.events.map Event.record = told.map fun (number, entry) => wrappedRecordOf number entry) ∧
      ((r.events.map Event.record = told.map fun (number, entry) => recordOf number entry) ↔
        ∀ line ∈ told, line.1 < 0x80000000) ∧
      ∀ summary, r.outcome = .ok summary →
        told = numberedFrom judge 1 lines ∧ summary.lines = lines.length := by
  intro r lines told
  have events : r.events = told.map fun (number, entry) => .classified (Int32.ofNat number) entry := by
    have front := List.prefix_iff_eq_take.1 (events_run_isPrefix judge source sink)
    rwa [Event.ofLines_zero_eq, ← List.map_take] at front
  refine ⟨?_, ?_, ?_⟩
  · rw [events, List.map_map]
    exact List.map_congr_left fun line _ => record_classified_eq_wrapped line.1 line.2
  · rw [events, List.map_map, List.map_inj_left]
    exact forall₂_congr fun line _ => record_classified_eq_iff
  · intro summary ok
    obtain ⟨done, -, rfl⟩ := run_of_outcome_ok ok
    refine ⟨List.take_of_length_le ?_, Summary.lines_of lines⟩
    have told_all : r.events = Event.ofLines judge 0 lines := by
      rw [show r = _ from done]
      rfl
    rw [told_all, Event.length_ofLines, length_numberedFrom]

/-- Line 2³¹ of input that is accepted, an amount behind empty lines, is told by a negative number. -/
theorem run_tells_negative_number :
    let source := Source.ofBytes (List.replicate 0x7FFFFFFF lineFeed ++ Utf8.encode "1,00".toList)
    let r := run Amount.isValid source {}
    (∃ summary, r.outcome = .ok summary ∧ summary.lines = 0x80000000) ∧
      numberedFrom Amount.isValid 1 source.intake.lines = [(0x80000000, ⟨"1,00", .valid⟩)] ∧
      r.events.map Event.record =
        [⟨.debug, Event.target, "classified \x221,00\x22",
          [("line_number", .number (-2147483648)), ("verdict", .text "VÁLIDO")]⟩] := by
  -- no name is given to the source or to the run: comparing a name with the input it stands for would
  -- write the input out
  obtain ⟨⟨summary, ok, all⟩, numbers, events⟩ :=
    run_behind_empty_lines Amount.isValid 0x7FFFFFFF "1,00".toList
  have one : (Text.lines "1,00".toList).length = 1 := by decide
  have only : numberedFrom Amount.isValid (0x7FFFFFFF + 1) (Text.lines "1,00".toList) =
      [(0x80000000, ⟨"1,00", .valid⟩)] := by decide +kernel
  refine ⟨⟨summary, ok, by rw [all, one]⟩, numbers.trans only, ?_⟩
  rw [events, only]
  decide +kernel

end AmountReport
