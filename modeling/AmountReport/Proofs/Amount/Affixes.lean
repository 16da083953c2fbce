import AmountReport.Proofs.Amount.Agreement

/-!
# What may stand before and behind an amount

How the judgement of a text changes with what is put before or behind it. Letters in front go together
with the symbol of the text, if it has one, so they make no difference. A dollar sign ends a symbol, and
behind a sign there is none, so either needs a text that has not begun one. Digits behind an amount are
more decimals of it, unless a parenthesis closes it.

Main statement: these laws, for either judgement and any text (`judgement_of_affixes`).
-/

namespace AmountReport.Amount

variable {s ls ds : List Char}

/-! ## Before an amount -/

/-- Letters in front make no difference. -/
theorem line_append_iff (letters : Letters ls) : Line (ls ++ s) ↔ Line s := by
  rw [line_iff_letters, line_iff_letters]
  constructor
  · rintro ⟨ks, w, letters', e, behind⟩
    have stops : Stops Char.isAlpha w := by
      rcases behind with signed | ⟨a, rfl, _⟩
      · intro c hc
        have outside := signed.stops c hc
        simp only [isSymbolChar, Bool.or_eq_false_iff] at outside
        exact outside.1
      · exact stops_cons.2 rfl
    obtain ⟨t, rfl, rfl⟩ := exists_append_of_stops letters stops e.symm
    exact ⟨t, w, (List.forall_mem_append.1 letters').2, rfl, behind⟩
  · rintro ⟨ks, w, letters', rfl, behind⟩
    exact ⟨ls ++ ks, w, List.forall_mem_append.2 ⟨letters, letters'⟩, (List.append_assoc ..).symm,
      behind⟩

/-- Behind a dollar sign in front, no more of a symbol can follow. -/
theorem line_dollar_cons_iff : Line ('$' :: s) ↔ Signed s := by
  constructor
  · intro line
    obtain ⟨ls, w, letters, e, behind⟩ := line_iff_letters.1 line
    cases ls with
    | nil =>
      rw [List.nil_append] at e
      subst e
      rcases behind with signed | ⟨a, e, signed⟩
      · exact absurd (stops_cons.1 signed.stops) (by decide)
      · rwa [(List.cons.inj e).2]
    | cons c ls =>
      have letter := letters c List.mem_cons_self
      rw [← (List.cons.inj e).1] at letter
      cases letter
  · exact fun signed => Line.withSymbol Symbol.dollar signed

theorem line_minus_cons_iff : Line ('-' :: s) ↔ Plain s := by
  constructor
  · intro line
    have signed : Signed ('-' :: s) := signed_iff.2 ⟨line, stops_cons.2 rfl⟩
    exact signed.of_minus
  · exact fun plain => Line.bare (Signed.minus plain)

theorem line_parenthesized_iff : Line ('(' :: (s ++ [')'])) ↔ Plain s := by
  constructor
  · intro line
    have signed : Signed ('(' :: (s ++ [')'])) := signed_iff.2 ⟨line, stops_cons.2 rfl⟩
    obtain ⟨p, e, plain⟩ := signed.of_parenthesis
    rwa [List.append_cancel_right e]
  · exact fun plain => Line.bare (Signed.parentheses plain)

/-! ## Behind an amount -/

theorem Fraction.append_digits (h : Fraction s) (digits : Digits ds) : Fraction (s ++ ds) := by
  refine ⟨List.forall_mem_append.2 ⟨h.digits, digits⟩, ?_⟩
  have := h.two_le_length
  rw [List.length_append]
  omega

theorem Plain.append_digits (h : Plain s) (digits : Digits ds) : Plain (s ++ ds) := by
  cases h with
  | mk integer fraction =>
    rw [List.append_assoc, List.cons_append]
    exact Plain.mk integer (fraction.append_digits digits)

theorem Signed.append_digits (h : Signed s) (unclosed : s.getLast? ≠ some ')')
    (digits : Digits ds) : Signed (s ++ ds) := by
  cases h with
  | minus plain => exact Signed.minus (plain.append_digits digits)
  | @parentheses p plain =>
    refine absurd ?_ unclosed
    rw [← List.cons_append, List.getLast?_append_of_ne_nil _ (by simp)]
    rfl
  | bare plain => exact Signed.bare (plain.append_digits digits)

/-- Digits behind a line are decimals of it, unless it is closed. -/
theorem Line.append_digits (h : Line s) (unclosed : s.getLast? ≠ some ')') (digits : Digits ds) :
    Line (s ++ ds) := by
  obtain ⟨t, a, rfl, symbol, signed⟩ := line_iff.1 h
  rw [List.getLast?_append_of_ne_nil _ signed.ne_nil] at unclosed
  exact line_iff.2 ⟨t, a ++ ds, List.append_assoc .., symbol, signed.append_digits unclosed digits⟩

/-- **What is put before or behind a text and its judgement.** Letters before a text make no difference.
A dollar sign before it makes an amount exactly of an amount that begins with neither a dollar sign nor a
letter; a minus before it, or parentheses around it, exactly of an amount that begins with a digit. Digits
behind an amount leave it one, unless it ends with a parenthesis. All of this holds of either judgement
and of any text, amount or not. -/
theorem judgement_of_affixes :
    ∀ judge ∈ [isValid, Scan.accepts], ∀ s : String,
      (∀ letters : String, Letters letters.toList → judge (letters ++ s) = judge s) ∧
      (judge ("$" ++ s) = true ↔
        judge s = true ∧ ∀ c ∈ s.toList.head?, c ≠ '$' ∧ c.isAlpha = false) ∧
      (judge ("-" ++ s) = true ↔ judge s = true ∧ ∃ c ∈ s.toList.head?, c.isDigit = true) ∧
      (judge ("(" ++ s ++ ")") = true ↔
        judge s = true ∧ ∃ c ∈ s.toList.head?, c.isDigit = true) ∧
      (judge s = true → s.toList.getLast? ≠ some ')' →
        ∀ digits : String, Digits digits.toList → judge (s ++ digits) = true) := by
  intro judge hj s
  have judged := judgement_iff_line hj
  refine ⟨?_, ?_, ?_, ?_, ?_⟩
  · intro letters h
    rw [Bool.eq_iff_iff, judged, judged, String.toList_append, line_append_iff h]
  · have begun : Stops isSymbolChar s.toList ↔
        ∀ c ∈ s.toList.head?, c ≠ '$' ∧ c.isAlpha = false := by
      simp [Stops, isSymbolChar, and_comm]
    rw [judged, judged, ← begun, ← signed_iff, String.toList_append]
    exact line_dollar_cons_iff
  · rw [judged, judged, ← plain_iff, String.toList_append]
    exact line_minus_cons_iff
  · rw [judged, judged, ← plain_iff, String.toList_append, String.toList_append]
    exact line_parenthesized_iff
  · intro h unclosed digits hd
    rw [judged] at h ⊢
    rw [String.toList_append]
    exact h.append_digits unclosed hd

/-- Letters go together with a symbol that ends in a dollar sign, and a digit with decimals behind a
minus; another dollar sign before the symbol is one too many, and so is a minus before parentheses. -/
theorem judgement_of_affixes_around_symbol :
    let s := "D$-1,00"
    (isValid s = true ∧ isValid ("US" ++ s) = true ∧ isValid (s ++ "5") = true) ∧
      Scan.accepts ("$" ++ s) = false ∧
      Scan.accepts ("(" ++ "1,00" ++ ")") = true ∧ Scan.accepts ("-" ++ "(1,00)") = false := by
  intro s
  have amount : isValid s = true := by decide
  have plain : Scan.accepts "1,00" = true := by decide +kernel
  obtain ⟨behindLetters, -, -, -, beforeDigits⟩ := judgement_of_affixes isValid List.mem_cons_self s
  obtain ⟨-, behindDollar, -⟩ := judgement_of_affixes Scan.accepts (by simp) s
  obtain ⟨-, -, -, inParentheses, -⟩ := judgement_of_affixes Scan.accepts (by simp) "1,00"
  obtain ⟨-, -, behindMinus, -⟩ := judgement_of_affixes Scan.accepts (by simp) "(1,00)"
  refine ⟨⟨amount, ?_, ?_⟩, ?_, ?_, ?_⟩
  · exact (behindLetters "US" (by decide)).trans amount
  · exact beforeDigits amount (by decide) "5" (by decide)
  · refine Bool.eq_false_iff.2 fun h => ?_
    exact absurd ((behindDollar.1 h).2 'D' (by decide)).2 (by decide)
  · exact inParentheses.2 ⟨plain, '1', rfl, by decide⟩
  · refine Bool.eq_false_iff.2 fun h => ?_
    obtain ⟨c, first, digit⟩ := (behindMinus.1 h).2
    cases first
    cases digit

end AmountReport.Amount
