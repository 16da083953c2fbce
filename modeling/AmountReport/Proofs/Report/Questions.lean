import AmountReport.Proofs.Amount.Agreement
import AmountReport.Proofs.Report.Intake
import AmountReport.Proofs.Stream.Stretches

/-!
# What a validator is asked

A validator is promised trimmed lines: texts that are not empty, neither begin nor end with a blank, and
have no line end inside (`Askable`). A run keeps that promise whatever its input and its sink are, and
asks once about each line that is not blank, in order. Its answers are all that a run has of a
validator, so what it would answer to other texts does not show (`run_congr`).

Main statement: the questions of a run are the trimmed lines of its input, and validators that agree on
what they can be asked make the same run (`run_asks_trimmed_lines`).
-/

namespace AmountReport

/-- A text as it is put to a validator. -/
structure Askable (text : String) : Prop where
  ne_empty : text ≠ ""
  first : ∀ c ∈ text.toList.head?, Text.isBlank c = false
  last : ∀ c ∈ text.toList.getLast?, Text.isBlank c = false
  inside : ∀ c ∈ text.toList, c ≠ '\n' ∧ c ≠ '\r'

/-- What trimming leaves of a line that is not blank can be asked about. -/
theorem askable_trim {line : List Char} (text : ¬ line.all Text.isBlank = true)
    (inside : ∀ c ∈ line, c ≠ '\n' ∧ c ≠ '\r') : Askable (Text.trim (String.ofList line)) := by
  have trimmed : (Text.trim (String.ofList line)).toList = Text.trimBlanks line := by
    rw [Text.toList_trim, String.toList_ofList]
  have empty := Text.isEmpty_trim (String.ofList line)
  rw [String.toList_ofList] at empty
  constructor
  · intro none
    rw [none] at empty
    exact text empty.symm
  · rw [trimmed]
    exact Text.isBlank_head?_trimBlanks line
  · rw [trimmed]
    exact Text.isBlank_getLast?_trimBlanks line
  · rw [trimmed]
    exact fun c hc => inside c ((Text.trimBlanks_infix line).mem hc)

/-- **What a source brings can be asked about**, whatever goes wrong behind it. -/
theorem askable_of_mem_intake (source : Source) : ∀ t ∈ source.intake.texts, Askable t := by
  intro t ht
  obtain ⟨line, hl, text, rfl⟩ := Text.mem_trimmed_iff.1 ht
  exact askable_trim text (not_lineEnd_of_mem_intake source line hl)

/-! ## The questions of a run -/

/-- A run asks about what its source brings, in order, up to the line that finds no room. -/
theorem asked_prefix_texts (judge : Validator) (source : Source) (sink : Sink) :
    (run judge source sink).asked <+: source.intake.texts := by
  by_cases fits : sink.Fits (report judge source.intake.texts)
  · rw [run_eq_of_fits judge fits]
    exact List.prefix_refl _
  · obtain ⟨room, hr, small⟩ := Sink.not_fits_iff.1 fits
    obtain ⟨k, -, -, ended⟩ := run_eq_of_not_fits judge hr small
    rw [ended]
    exact List.take_prefix _ _

/-- **If nothing goes wrong with the input**, its stretches are texts, and it brings the lines of
them. -/
theorem Source.exists_texts {source : Source} (sound : source.intake.fault = none) :
    ∃ texts : List (List Char), source.stretches [] = texts.map Utf8.encode ∧
      source.intake.lines = texts.flatMap Text.lines := by
  obtain ⟨unbroken, valid⟩ := (Intake.fault_of_eq_none_iff _ _).1 sound
  have cut := pieces_cut_of_fault_eq_none unbroken
  rw [cut] at valid
  have decoded : ∀ stretch ∈ source.stretches [], ∃ text, stretch = Utf8.encode text := by
    intro stretch hs
    exact forall_pieces_iff.1 fun piece hp =>
      valid piece (List.mem_flatMap.2 ⟨stretch, hs, hp⟩)
  obtain ⟨texts, whole⟩ := exists_map_encode decoded
  have pieces : source.cut.pieces = (texts.flatMap (Text.pieces '\n')).map Utf8.encode := by
    rw [cut, whole, List.flatMap_map, List.map_flatMap]
    simp only [pieces_encode]
  refine ⟨texts, whole, ?_⟩
  rw [intake, pieces, Intake.of_map_encode, List.flatMap_assoc]
  exact List.flatMap_congr fun text _ => (Text.lines_eq_flatMap_pieceLines text).symm

/-! ## Two validators -/

section
variable {judge judge' : Validator}

namespace Progress

/-- A line sees no more of a validator than the answer about it, and a blank line not even that. -/
theorem line_congr {line : List Char}
    (agree : ¬ line.all Text.isBlank = true →
      judge (Text.trim (String.ofList line)) = judge' (Text.trim (String.ofList line)))
    (p : Progress) : p.line judge (String.ofList line) = p.line judge' (String.ofList line) := by
  have same : classify judge (String.ofList line) = classify judge' (String.ofList line) := by
    rw [classify_ofList, classify_ofList]
    split
    · rfl
    · rename_i text
      rw [Validator.entry, Validator.entry, agree text]
  unfold Progress.line
  rw [classifyM_recorded, classifyM_recorded, same]

theorem lines_congr {lines : List (List Char)}
    (agree : ∀ t ∈ Text.trimmed lines, judge t = judge' t) (p : Progress) :
    p.lines judge lines = p.lines judge' lines := by
  induction lines generalizing p with
  | nil => simp only [Progress.lines, List.foldlM_nil]
  | cons line lines ih =>
    rw [Text.trimmed_cons] at agree
    have first : p.line judge (String.ofList line) = p.line judge' (String.ofList line) := by
      refine line_congr (fun text => agree _ ?_) p
      rw [if_neg text]
      exact List.mem_cons_self
    have later : ∀ t ∈ Text.trimmed lines, judge t = judge' t := by
      refine fun t ht => agree t ?_
      split
      · exact ht
      · exact List.mem_cons_of_mem _ ht
    cases step : p.line judge (String.ofList line) with
    | error halted => rw [lines_cons_error step, lines_cons_error (first.symm.trans step)]
    | ok q => rw [lines_cons_ok step, lines_cons_ok (first.symm.trans step), ih later]

end Progress

/-- **Validators that agree on what the source brings make the same run.** -/
theorem run_congr {source : Source} (agree : ∀ t ∈ source.intake.texts, judge t = judge' t)
    (sink : Sink) : run judge source sink = run judge' source sink := by
  rw [run_eq_take, run_eq_take, Progress.take, Progress.take, Progress.lines_congr agree]

end

/-- **A validator is asked once about each line that is not blank, and its answers decide the report.**
If a run succeeds, the texts that it has put to the validator are, in order, the trimmed lines of its
input that are not blank; the input is the one stretch of all data, unless refills without bytes part
it. Whether a run succeeds or not, it asks about no other texts than trimmed ones without line ends
inside. Two validators that agree on such texts make the same run on any source and sink: the same
outcome, output, flushes, questions and events; so the two judgements of amounts do. -/
theorem run_asks_trimmed_lines :
    (∀ (judge : Validator) (source : Source) (sink : Sink) (summary : Summary),
      (run judge source sink).outcome = .ok summary →
        (∃ texts : List (List Char), source.stretches [] = texts.map Utf8.encode ∧
          (run judge source sink).asked = Text.trimmed (texts.flatMap Text.lines)) ∧
        (source.Gapless → source.stretches [] = [source.data])) ∧
      (∀ (judge : Validator) (source : Source) (sink : Sink),
        ∀ t ∈ (run judge source sink).asked, Askable t) ∧
      (∀ judge judge' : Validator, (∀ t, Askable t → judge t = judge' t) →
        ∀ (source : Source) (sink : Sink), run judge source sink = run judge' source sink) ∧
      ∀ (source : Source) (sink : Sink),
        run Amount.isValid source sink = run Amount.Scan.accepts source sink := by
  have simulates (judge judge' : Validator) (agree : ∀ t, Askable t → judge t = judge' t)
      (source : Source) (sink : Sink) : run judge source sink = run judge' source sink :=
    run_congr (fun t ht => agree t (askable_of_mem_intake source t ht)) sink
  refine ⟨?_, ?_, simulates, ?_⟩
  · intro judge source sink summary ok
    obtain ⟨done, sound, -⟩ := run_of_outcome_ok ok
    obtain ⟨texts, stretches, lines⟩ := Source.exists_texts sound
    refine ⟨⟨texts, stretches, ?_⟩, fun gapless => Source.stretches_of_gapless gapless []⟩
    rw [done, ← lines]
    rfl
  · intro judge source sink t ht
    exact askable_of_mem_intake source t ((asked_prefix_texts judge source sink).subset ht)
  · refine simulates _ _ fun t _ => ?_
    rw [Bool.eq_iff_iff, Amount.isValid_iff, Amount.Scan.accepts,
      Amount.Scan.acceptsBytes_encode_iff]

/-- A gap ends the second line; the text of the first comes again behind it and is asked about again. A
validator that differs on a text with a blank in front makes the same run. -/
theorem run_asks_trimmed_lines_around_gap :
    let strict : Validator := (· == "1")
    let lax : Validator := fun t => t == "1" || t == " 1"
    let source : Source := [.data [0x20, 0x31, 0x0D], .fault (.ofErrno 4), .data [0x0A, 0x32],
      .data [], .data [0x31, 0x0A, 0x0D]]
    (run strict source {}).outcome = .ok ⟨2, 1, 1⟩ ∧
      source.stretches [] = [[0x20, 0x31, 0x0D, 0x0A, 0x32], [0x31, 0x0A, 0x0D]] ∧
      (∃ texts : List (List Char), source.stretches [] = texts.map Utf8.encode ∧
        (run strict source {}).asked = Text.trimmed (texts.flatMap Text.lines)) ∧
      (run strict source {}).asked = ["1", "2", "1"] ∧
      strict " 1" ≠ lax " 1" ∧ run strict source {} = run lax source {} := by
  intro strict lax source
  have ok : (run strict source {}).outcome = .ok ⟨2, 1, 1⟩ := by decide +kernel
  have agree : ∀ t, Askable t → strict t = lax t := by
    intro t askable
    have blank : t ≠ " 1" := by
      rintro rfl
      exact absurd (askable.first ' ' rfl) (by decide)
    simp [strict, lax, blank]
  obtain ⟨asks, -, simulates, -⟩ := run_asks_trimmed_lines
  exact ⟨ok, by decide, (asks strict source {} _ ok).1, by decide +kernel, by decide,
    simulates strict lax agree source {}⟩

end AmountReport
