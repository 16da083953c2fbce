import AmountReport.Proofs.Amount.Agreement
import AmountReport.Proofs.Report.Lines

/-!
# Classification and blanks

Classification, and the judgement of lines, trim what they are given; the judgement of amounts does not.
They agree all the same, as an amount has no blank in it and what trimming leaves is trimmed again to
itself.

Main statement: blanks around a line do not show in its entry, and the entry says of amounts what the
judgements say (`classify_trims`).
-/

namespace AmountReport

/-- An amount has no blank in it. -/
theorem Amount.isBlank_of_line {s : List Char} (h : Line s) : ∀ c ∈ s, Text.isBlank c = false := by
  intro c hc
  obtain ⟨low, high⟩ := h.visible c hc
  rw [Bool.eq_false_iff]
  simp only [Text.isBlank, ne_eq, Bool.or_eq_true, Bool.and_eq_true, decide_eq_true_eq, beq_iff_eq]
  omega

/-- An amount is left as it is. -/
theorem Amount.trim_of_isValid {text : String} (h : isValid text = true) : Text.trim text = text := by
  have unblank := isBlank_of_line ((isValid_iff text).1 h)
  exact Text.trim_eq_self (fun c hc => unblank c (List.mem_of_mem_head? hc))
    (fun c hc => unblank c (List.mem_of_mem_getLast? hc))

section
variable {judge : Validator} {raw : String} {e : Entry}

theorem classify_eq_none_iff :
    classify judge raw = none ↔ ∀ c ∈ raw.toList, Text.isBlank c = true := by
  rw [classify_eq, ← List.all_eq_true, ← Text.isEmpty_trim]
  split <;> simp_all

/-- What an entry holds is classified as the line was. -/
theorem classify_text (h : classify judge raw = some e) : classify judge e.text = some e := by
  obtain ⟨some, rfl⟩ := classify_eq_some_iff.1 h
  have trimmed : Text.trim (Text.trim raw) = Text.trim raw := by
    refine Text.trim_eq_self ?_ ?_
    · rw [Text.toList_trim]
      exact Text.isBlank_head?_trimBlanks _
    · rw [Text.toList_trim]
      exact Text.isBlank_getLast?_trimBlanks _
  refine classify_eq_some_iff.2 ?_
  rw [Validator.entry, trimmed]
  exact ⟨some, rfl⟩

theorem verdict_entry_iff (judge : Validator) (text : String) :
    (judge.entry text).verdict = .valid ↔ judge text = true := by
  rw [Validator.entry]
  cases judge text <;> simp [Verdict.ofBool]

/-- The judgement of lines is the verdict on them; blank lines are no amounts. -/
theorem isValidLine_iff (raw : String) : Amount.isValidLine raw = true ↔
    ∃ e, classify Amount.isValid raw = some e ∧ e.verdict = .valid := by
  rw [Amount.isValidLine]
  constructor
  · intro valid
    have some : Text.trim raw ≠ "" := by
      intro none
      rw [none] at valid
      exact absurd valid (by decide)
    exact ⟨_, classify_eq_some_iff.2 ⟨some, rfl⟩, (verdict_entry_iff _ _).2 valid⟩
  · rintro ⟨e, found, valid⟩
    obtain ⟨-, rfl⟩ := classify_eq_some_iff.1 found
    exact (verdict_entry_iff _ _).1 valid

end

/-- **Classification trims.** Blanks around a line make no difference to its entry, and it has none exactly
if it is nothing but blanks. The text of an entry is not empty, neither begins nor ends with a blank, and
is what stands between blanks in the line; classified again it gives the same entry. Of amounts, a line
is judged valid exactly if it has an entry with that verdict, and a text that is an amount as it stands is
a valid line whose entry holds all of it. -/
theorem classify_trims :
    (∀ (judge : Validator) (raw before after : String),
      (∀ c ∈ before.toList, Text.isBlank c = true) → (∀ c ∈ after.toList, Text.isBlank c = true) →
        classify judge (before ++ raw ++ after) = classify judge raw) ∧
      (∀ (judge : Validator) (raw : String),
        classify judge raw = none ↔ ∀ c ∈ raw.toList, Text.isBlank c = true) ∧
      (∀ (judge : Validator) (raw : String) (e : Entry), classify judge raw = some e →
        e.text ≠ "" ∧ (∀ c ∈ e.text.toList.head?, Text.isBlank c = false) ∧
          (∀ c ∈ e.text.toList.getLast?, Text.isBlank c = false) ∧
          (∃ before after : String, raw = before ++ e.text ++ after ∧
            (∀ c ∈ before.toList, Text.isBlank c = true) ∧
            ∀ c ∈ after.toList, Text.isBlank c = true) ∧
          e.verdict = .ofBool (judge e.text) ∧ classify judge e.text = some e) ∧
      ∀ raw : String,
        (Amount.isValidLine raw = true ↔
          ∃ e, classify Amount.isValid raw = some e ∧ e.verdict = .valid) ∧
        (Amount.isValid raw = true →
          Amount.isValidLine raw = true ∧ classify Amount.isValid raw = some ⟨raw, .valid⟩) := by
  refine ⟨?_, fun judge raw => classify_eq_none_iff, ?_, fun raw => ⟨isValidLine_iff raw, ?_⟩⟩
  · intro judge raw before after hb ha
    rw [classify_eq, classify_eq, Text.trim_append raw hb ha]
  · intro judge raw e found
    have again := classify_text found
    obtain ⟨some, rfl⟩ := classify_eq_some_iff.1 found
    refine ⟨some, ?_, ?_, Text.exists_eq_append_trim raw, rfl, again⟩
    · rw [Validator.entry, Text.toList_trim]
      exact Text.isBlank_head?_trimBlanks _
    · rw [Validator.entry, Text.toList_trim]
      exact Text.isBlank_getLast?_trimBlanks _
  · intro valid
    have trimmed := Amount.trim_of_isValid valid
    have line : Amount.isValidLine raw = true := by rw [Amount.isValidLine, trimmed, valid]
    refine ⟨line, ?_⟩
    obtain ⟨e, found, verdict⟩ := (isValidLine_iff raw).1 line
    obtain ⟨-, rfl⟩ := classify_eq_some_iff.1 found
    rw [found, Validator.entry, trimmed, valid]
    rfl

/-- Blanks of several bytes are taken off, the one inside stays, and so does a zero width space, which is
none. -/
theorem classify_trims_wide_blanks :
    let judge : Validator := (· == "1\u00A02\u200B")
    let entry : Entry := ⟨"1\u00A02\u200B", .valid⟩
    classify judge ("\u3000\u0085" ++ "1\u00A02\u200B" ++ " \u2028\t") = some entry ∧
      classify judge entry.text = some entry ∧
      Amount.isValidLine "1,00" = true ∧ classify Amount.isValid "1,00" = some ⟨"1,00", .valid⟩ := by
  intro judge entry
  have found : classify judge "1\u00A02\u200B" = some entry := by decide +kernel
  have valid : Amount.isValid "1,00" = true := by decide +kernel
  obtain ⟨around, -, holds, amounts⟩ := classify_trims
  obtain ⟨-, -, -, -, -, again⟩ := holds judge _ entry found
  obtain ⟨line, whole⟩ := (amounts "1,00").2 valid
  refine ⟨(around judge _ _ _ ?_ ?_).trans found, again, line, whole⟩
  · exact List.all_eq_true.1 (by decide)
  · exact List.all_eq_true.1 (by decide)

end AmountReport
