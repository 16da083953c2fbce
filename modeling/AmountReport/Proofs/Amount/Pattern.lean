import AmountReport.Amount.Pattern
import AmountReport.Proofs.Amount.Grammar
import AmountReport.Proofs.Pattern

/-!
# The pattern of amounts describes the grammar

Part by part: what each part of the pattern describes is the language of the rule of the same name.

Main statement: the whole pattern describes lines (`matches_line_iff`).
-/

namespace AmountReport.Amount.Spelling

open Pattern (Matches OfClass ofClass_oneOf matches_alt_iff matches_char_iff matches_optional_iff)

/-! ## Classes -/

theorem ofClass_digit : OfClass digit Char.isDigit := by
  have same : Pattern.inRanges [('0', '9')] = Char.isDigit := by
    funext c
    rw [Bool.eq_iff_iff, isDigit_iff]
    simp only [Pattern.inRanges, List.any_cons, List.any_nil, Bool.or_false, Bool.and_eq_true,
      decide_eq_true_eq, Char.le_def, UInt32.le_iff_toNat_le]
    exact Iff.rfl
  exact same ▸ ofClass_oneOf _

theorem ofClass_leadDigit : OfClass leadDigit isLeadDigit := by
  have same : Pattern.inRanges [('1', '9')] = isLeadDigit := by
    funext c
    simp [Pattern.inRanges, isLeadDigit]
  exact same ▸ ofClass_oneOf _

theorem ofClass_letter : OfClass letter Char.isAlpha := by
  have same : Pattern.inRanges [('A', 'Z'), ('a', 'z')] = Char.isAlpha := by
    funext c
    rw [Bool.eq_iff_iff, isAlpha_iff]
    simp only [Pattern.inRanges, List.any_cons, List.any_nil, Bool.or_false, Bool.and_eq_true,
      Bool.or_eq_true, decide_eq_true_eq, Char.le_def, UInt32.le_iff_toNat_le]
    exact Iff.rfl
  exact same ▸ ofClass_oneOf _

/-- A fixed character before a pattern. -/
theorem matches_char_seq_iff {c : Char} {p : Pattern} {s : List Char} :
    Matches (.seq (.char c) p) s ↔ ∃ t, s = c :: t ∧ Matches p t := by
  rw [Pattern.matches_seq_iff]
  constructor
  · rintro ⟨t, u, rfl, ht, hu⟩
    rw [matches_char_iff.1 ht]
    exact ⟨u, rfl, hu⟩
  · rintro ⟨t, rfl, ht⟩
    exact ⟨[c], t, rfl, matches_char_iff.2 rfl, ht⟩

/-! ## Integers -/

/-- A point and three digits. -/
def group : Pattern := .seq (.char '.') (digit.times 3)

theorem matches_group_iff {s : List Char} :
    Matches group s ↔ ∃ x y z, s = ['.', x, y, z] ∧ Digits [x, y, z] := by
  rw [group, matches_char_seq_iff]
  simp only [ofClass_digit.matches_times_iff]
  constructor
  · rintro ⟨t, rfl, three, digits⟩
    obtain ⟨x, y, z, rfl⟩ := List.length_eq_three.1 three
    exact ⟨x, y, z, rfl, digits⟩
  · rintro ⟨x, y, z, rfl, digits⟩
    exact ⟨[x, y, z], rfl, rfl, digits⟩

theorem matches_groups_iff {s : List Char} : Matches (.star group) s ↔ Groups s := by
  constructor
  · intro h
    generalize e : Pattern.star group = p at h
    induction h with
    | done => exact Groups.nil
    | again first _ _ ih =>
      cases e
      obtain ⟨x, y, z, rfl, digits⟩ := matches_group_iff.1 first
      exact Groups.cons digits (ih rfl)
    | _ => cases e
  · intro h
    induction h with
    | nil => exact .done
    | @cons x y z rest digits _ ih =>
      exact Matches.again (matches_group_iff.2 ⟨x, y, z, rfl, digits⟩) ih

theorem matches_many_group_iff {s : List Char} :
    Matches group.many s ↔ Groups s ∧ s ≠ [] := by
  rw [Pattern.many, Pattern.matches_seq_iff]
  constructor
  · rintro ⟨t, u, rfl, ht, hu⟩
    obtain ⟨x, y, z, rfl, digits⟩ := matches_group_iff.1 ht
    exact ⟨Groups.cons digits (matches_groups_iff.1 hu), by simp⟩
  · rintro ⟨groups, ne⟩
    cases groups with
    | nil => exact absurd rfl ne
    | @cons x y z rest digits groups =>
      exact ⟨['.', x, y, z], rest, rfl, matches_group_iff.2 ⟨x, y, z, rfl, digits⟩,
        matches_groups_iff.2 groups⟩

theorem matches_integer_iff {s : List Char} : Matches integer s ↔ Integer s := by
  have shape : Matches integer s ↔ Matches (.char '0') s ∨
      Matches (.seq leadDigit (digit.upTo 2)) s ∨
        Matches (.seq leadDigit (.seq digit.optional group.many)) s := by
    rw [integer, matches_alt_iff, matches_alt_iff]
    rfl
  rw [shape, matches_char_iff, ofClass_leadDigit.matches_seq_iff,
    ofClass_leadDigit.matches_seq_iff]
  simp only [ofClass_digit.matches_upTo_iff, Pattern.matches_seq_iff,
    ofClass_digit.matches_optional_iff, matches_many_group_iff]
  constructor
  · rintro (rfl | ⟨d, ds, rfl, lead, short, digits⟩ |
      ⟨d, t, rfl, lead, ds, gs, rfl, ⟨short, digits⟩, groups, ne⟩)
    · exact Integer.zero
    · exact Integer.short lead digits short
    · exact Integer.grouped lead digits short groups ne
  · intro h
    cases h with
    | zero => exact Or.inl rfl
    | short lead digits short => exact Or.inr (Or.inl ⟨_, _, rfl, lead, short, digits⟩)
    | grouped lead digits short groups ne =>
      exact Or.inr (Or.inr ⟨_, _, rfl, lead, _, _, rfl, ⟨short, digits⟩, groups, ne⟩)

/-! ## Amounts -/

theorem matches_fraction_iff {s : List Char} : Matches fraction s ↔ Fraction s := by
  rw [fraction, ofClass_digit.matches_atLeast_iff]
  constructor
  · rintro ⟨length, digits⟩
    exact ⟨digits, length⟩
  · intro h
    exact ⟨h.two_le_length, h.digits⟩

theorem matches_plain_iff {s : List Char} : Matches plain s ↔ Plain s := by
  rw [plain, Pattern.matches_seq_iff]
  simp only [matches_integer_iff, matches_char_seq_iff, matches_fraction_iff]
  constructor
  · rintro ⟨i, _, rfl, hi, f, rfl, hf⟩
    exact Plain.mk hi hf
  · intro h
    cases h with
    | mk hi hf => exact ⟨_, _, rfl, hi, _, rfl, hf⟩

theorem matches_signed_iff {s : List Char} : Matches signed s ↔ Signed s := by
  rw [signed, matches_alt_iff, matches_alt_iff, matches_char_seq_iff, matches_char_seq_iff]
  simp only [Pattern.matches_seq_iff, matches_plain_iff, matches_char_iff]
  constructor
  · rintro (⟨p, rfl, hp⟩ | ⟨_, rfl, p, _, rfl, hp, rfl⟩ | hp)
    · exact Signed.minus hp
    · exact Signed.parentheses hp
    · exact Signed.bare hp
  · intro h
    cases h with
    | minus hp => exact Or.inl ⟨_, rfl, hp⟩
    | parentheses hp => exact Or.inr (Or.inl ⟨_, rfl, _, _, rfl, hp, rfl⟩)
    | bare hp => exact Or.inr (Or.inr hp)

/-! ## Lines -/

theorem matches_symbol_iff {s : List Char} : Matches symbol s ↔ Symbol s := by
  rw [symbol, matches_alt_iff, matches_char_iff, Pattern.matches_seq_iff]
  simp only [ofClass_letter.matches_many_iff, matches_optional_iff, matches_char_iff]
  constructor
  · rintro (rfl | ⟨ls, _, rfl, ⟨ne, letters⟩, rfl | rfl⟩)
    · exact Symbol.dollar
    · exact Symbol.lettersDollar letters ne
    · rw [List.append_nil]
      exact Symbol.letters letters ne
  · intro h
    cases h with
    | dollar => exact Or.inl rfl
    | letters letters ne =>
      exact Or.inr ⟨s, [], by simp, ⟨ne, letters⟩, Or.inr rfl⟩
    | lettersDollar letters ne => exact Or.inr ⟨_, _, rfl, ⟨ne, letters⟩, Or.inl rfl⟩

/-- **The pattern describes the lines of the grammar.** -/
theorem matches_line_iff {s : List Char} : Matches line s ↔ Line s := by
  rw [line, Pattern.matches_seq_iff, line_iff]
  simp only [matches_optional_iff, matches_symbol_iff, matches_signed_iff]
  constructor
  · rintro ⟨t, a, rfl, ht, ha⟩
    exact ⟨t, a, rfl, ht.symm, ha⟩
  · rintro ⟨t, a, rfl, ht, ha⟩
    exact ⟨t, a, rfl, ht.symm, ha⟩

end AmountReport.Amount.Spelling
