import AmountReport.Proofs.Report.Pieces
import AmountReport.Proofs.Stream.Sink
import AmountReport.Proofs.Text.Blank

/-!
# Reports line by line

A run on the bytes of a text is a fold over the lines of the text (`follow_encode`), although it
reads pieces. If the sink takes all that it is given, no step of the fold can fail, and what the steps
add up to is the report and the counts of the lines.

Main statement: a run reports the lines of its input and counts them (`run_reports_lines`).
-/

namespace AmountReport

/-! ## Reports -/

/-- The lines that are not blank, trimmed. -/
def Text.trimmed (lines : List (List Char)) : List String :=
  (lines.filter fun line => !line.all isBlank).map fun line => trim (String.ofList line)

/-- A text with the verdict on it. -/
def Validator.entry (judge : Validator) (text : String) : Entry := ⟨text, .ofBool (judge text)⟩

/-- The report lines of some texts, with their line ends. -/
def report (judge : Validator) (texts : List String) : List UInt8 :=
  texts.flatMap fun text => Progress.reportLine (judge.entry text)

/-- The counts of some lines. -/
def Summary.of (judge : Validator) (lines : List (List Char)) : Summary where
  valid := (Text.trimmed lines).countP judge
  invalid := (Text.trimmed lines).countP (!judge ·)
  skipped := lines.countP (·.all Text.isBlank)

/-- A line has the entry of what trimming leaves of it, if that is anything. -/
theorem classify_eq (judge : Validator) (raw : String) :
    classify judge raw =
      if (Text.trim raw).isEmpty then none else some (judge.entry (Text.trim raw)) := by
  unfold classify classifyM
  dsimp only
  split <;> rfl

theorem classify_eq_some_iff {judge : Validator} {raw : String} {e : Entry} :
    classify judge raw = some e ↔ Text.trim raw ≠ "" ∧ e = judge.entry (Text.trim raw) := by
  rw [classify_eq]
  by_cases none : (Text.trim raw).isEmpty = true
  · rw [if_pos none]
    exact ⟨nofun, fun h => absurd (String.isEmpty_iff.1 none) h.1⟩
  · rw [if_neg none, Option.some.injEq]
    exact ⟨fun h => ⟨mt String.isEmpty_iff.2 none, h.symm⟩, fun h => h.2.symm⟩

/-- A line has an entry unless it is blank, that of its trimmed text. -/
theorem classify_ofList (judge : Validator) (line : List Char) :
    classify judge (String.ofList line) =
      if line.all Text.isBlank then none else some (judge.entry (Text.trim (String.ofList line))) := by
  rw [classify_eq, Text.isEmpty_trim, String.toList_ofList]

section
variable {judge : Validator}

theorem Text.trimmed_cons (line : List Char) (lines : List (List Char)) :
    trimmed (line :: lines) =
      if line.all isBlank then trimmed lines else trim (String.ofList line) :: trimmed lines := by
  by_cases blank : line.all isBlank = true <;> simp [trimmed, blank]

theorem Text.mem_trimmed_iff {lines : List (List Char)} {t : String} :
    t ∈ trimmed lines ↔
      ∃ line ∈ lines, ¬ line.all isBlank = true ∧ t = trim (String.ofList line) := by
  simp only [trimmed, List.mem_map, List.mem_filter, Bool.not_eq_true', Bool.not_eq_true, and_assoc,
    eq_comm (a := t)]

/-- A line that is not blank counts as valid or as invalid. -/
theorem Summary.classified_of (lines : List (List Char)) :
    (Summary.of judge lines).classified = (Text.trimmed lines).length := by
  have both := List.length_eq_countP_add_countP judge (l := Text.trimmed lines)
  simpa [Summary.classified, Summary.of] using both.symm

/-- Each line counts once. -/
theorem Summary.lines_of (lines : List (List Char)) :
    (Summary.of judge lines).lines = lines.length := by
  have both := List.length_eq_countP_add_countP (·.all Text.isBlank) (l := lines)
  have skipped : (Summary.of judge lines).skipped = lines.countP (·.all Text.isBlank) := rfl
  rw [Summary.lines, classified_of, skipped, Text.trimmed, List.length_map,
    ← List.countP_eq_length_filter, both, Nat.add_comm]
  simp only [decide_not, Bool.decide_eq_true]

theorem Summary.of_cons (line : List Char) (lines : List (List Char)) :
    Summary.of judge (line :: lines) =
      if line.all Text.isBlank then (Summary.of judge lines).skip
      else (Summary.of judge lines).record (judge.entry (Text.trim (String.ofList line))).verdict := by
  by_cases blank : line.all Text.isBlank = true
  · simp [Summary.of, Text.trimmed_cons, Summary.skip, blank]
  · by_cases accepted : judge (Text.trim (String.ofList line)) = true <;>
      simp [Summary.of, Text.trimmed_cons, Summary.record, Validator.entry, Verdict.ofBool, blank,
        accepted]

theorem report_cons (t : String) (texts : List String) :
    report judge (t :: texts) = Progress.reportLine (judge.entry t) ++ report judge texts := rfl

end

namespace Summary

theorem zero_add (s : Summary) : {} + s = s := by
  show Summary.mk _ _ _ = s
  simp only [Nat.zero_add]

theorem skip_add (s t : Summary) : s.skip + t = s + t.skip := by
  show Summary.mk _ _ _ = Summary.mk _ _ _
  simp only [skip, Nat.add_assoc, Nat.add_comm 1]

theorem record_add (s t : Summary) (v : Verdict) : s.record v + t = s + t.record v := by
  cases v <;> show Summary.mk _ _ _ = Summary.mk _ _ _ <;>
    simp only [record, Nat.add_assoc, Nat.add_comm 1]

end Summary

/-! ## A step for each line -/

namespace Progress

/-- The step that a line makes if the sink takes its report line. -/
def reported (judge : Validator) (p : Progress) (line : List Char) : Progress :=
  match classify judge (String.ofList line) with
  | none => { p with lineNumber := p.lineNumber + 1, summary := p.summary.skip }
  | some entry =>
    { lineNumber := p.lineNumber + 1
      summary := p.summary.record entry.verdict
      sink := p.sink.store (reportLine entry)
      asked := entry.text :: p.asked
      events := .classified (p.lineNumber + 1) entry :: p.events }

section
variable {judge : Validator} {p : Progress}

theorem reported_of_blank {line : List Char} (blank : line.all Text.isBlank = true) :
    p.reported judge line =
      { p with lineNumber := p.lineNumber + 1, summary := p.summary.skip } := by
  rw [reported, classify_ofList, if_pos blank]

theorem reported_of_text {line : List Char} (text : ¬ line.all Text.isBlank = true) :
    p.reported judge line =
      let entry := judge.entry (Text.trim (String.ofList line))
      { lineNumber := p.lineNumber + 1
        summary := p.summary.record entry.verdict
        sink := p.sink.store (reportLine entry)
        asked := entry.text :: p.asked
        events := .classified (p.lineNumber + 1) entry :: p.events } := by
  rw [reported, classify_ofList, if_neg text]

/-- What the steps add to the sink. -/
theorem sink_foldl_reported (lines : List (List Char)) :
    (lines.foldl (reported judge) p).sink = p.sink.store (report judge (Text.trimmed lines)) := by
  induction lines generalizing p with
  | nil => exact (Sink.store_nil _).symm
  | cons line lines ih =>
    rw [List.foldl_cons, ih, Text.trimmed_cons]
    by_cases blank : line.all Text.isBlank = true
    · rw [reported_of_blank blank, if_pos blank]
    · rw [reported_of_text blank, if_neg blank, report_cons, Sink.store_append]

/-- What the steps add to the summary. -/
theorem summary_foldl_reported (lines : List (List Char)) :
    (lines.foldl (reported judge) p).summary = p.summary + .of judge lines := by
  induction lines generalizing p with
  | nil => rfl
  | cons line lines ih =>
    rw [List.foldl_cons, ih, Summary.of_cons]
    by_cases blank : line.all Text.isBlank = true
    · rw [reported_of_blank blank, if_pos blank, Summary.skip_add]
    · rw [reported_of_text blank, if_neg blank, Summary.record_add]

end

end Progress

end AmountReport
