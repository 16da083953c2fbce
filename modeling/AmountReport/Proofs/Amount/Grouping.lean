import AmountReport.Amount.Grouping
import AmountReport.Proofs.Amount.Agreement

/-!
# Which numbers have a spelling

A grouped number has its points counted from the right, while the grammar reads an integer from the left:
one to three digits, then groups. The two meet in the groups behind a text of digits: putting points into
all of it puts them before each group and leaves the digits in front alone, as long as these are not more
than three (`separate_append`). As groups may follow one digit or two but not three, the numbers with six,
nine, twelve and so on digits are left out.

Main statement: the integers that are accepted are the grouped numbers whose count of digits is at most
three or no multiple of three, and each of these has one spelling (`accepted_iff_grouped`).
-/

namespace AmountReport.Amount

/-- The number that the digits of a text spell, in decimal. -/
def value (s : List Char) : Nat := Nat.ofDigitChars 10 (s.filter Char.isDigit) 0

/-- How many decimal digits a number has. -/
def digitCount (n : Nat) : Nat := (Nat.toDigits 10 n).length

/-- Groups can follow the digits of the number that are left over, or none need to. -/
def Groupable (n : Nat) : Prop := digitCount n ≤ 3 ∨ digitCount n % 3 ≠ 0

/-- A text of digits and points. -/
def DigitsAndPoints (s : List Char) : Prop := ∀ c ∈ s, c.isDigit = true ∨ c = '.'

instance (s : List Char) : Decidable (DigitsAndPoints s) := List.decidableBAll _ s

/-! ## Decimal digits -/

section
variable {s ds : List Char} {c d : Char} {n : Nat}

theorem filter_isDigit_of_digits (h : Digits s) : s.filter Char.isDigit = s :=
  List.filter_eq_self.2 h

theorem digits_toDigits (n : Nat) : Digits (Nat.toDigits 10 n) :=
  fun _ h => Nat.isDigit_of_mem_toDigits (by decide) (by decide) h

/-- A digit is the digit of its number. -/
theorem digitChar_sub (h : c.isDigit = true) : Nat.digitChar (c.toNat - 48) = c := by
  rw [isDigit_iff] at h
  rw [← Char.toNat_inj, Nat.toNat_digitChar_of_lt_ten (by omega)]
  omega

/-- Digits that are read behind those of a number are written behind them. -/
theorem toDigits_ofDigitChars (digits : Digits ds) (pos : 0 < n) :
    Nat.toDigits 10 (Nat.ofDigitChars 10 ds n) = Nat.toDigits 10 n ++ ds := by
  induction ds generalizing n with
  | nil => simp
  | cons c ds ih =>
    have digit : c.isDigit = true := digits c List.mem_cons_self
    have bounds := isDigit_iff.1 digit
    have first : Nat.toDigits 10 (10 * n + (c.toNat - 48)) = Nat.toDigits 10 n ++ [c] := by
      rw [← Nat.toDigits_append_toDigits (by decide) pos (by omega),
        Nat.toDigits_of_lt_base (n := c.toNat - 48) (by omega), digitChar_sub digit]
    rw [Nat.ofDigitChars_cons, ih (fun x hx => digits x (List.mem_cons_of_mem _ hx)) (by omega)]
    show Nat.toDigits 10 (10 * n + (c.toNat - 48)) ++ ds = _
    rw [first, List.append_assoc]
    rfl

/-- **Digits without a leading zero are the digits of the number that they spell.** -/
theorem toDigits_value (lead : isLeadDigit d = true) (digits : Digits ds) :
    Nat.toDigits 10 (value (d :: ds)) = d :: ds := by
  have digit := isDigit_of_isLeadDigit lead
  have bounds := isLeadDigit_iff.1 lead
  have all : Digits (d :: ds) := List.forall_mem_cons.2 ⟨digit, digits⟩
  rw [value, filter_isDigit_of_digits all, Nat.ofDigitChars_cons]
  show Nat.toDigits 10 (Nat.ofDigitChars 10 ds (10 * 0 + (d.toNat - 48))) = _
  rw [toDigits_ofDigitChars digits (by omega), Nat.toDigits_of_lt_base (by omega), Nat.mul_zero,
    Nat.zero_add, digitChar_sub digit]
  rfl

/-- The digits of a number other than zero do not begin with one. -/
theorem exists_lead_toDigits (pos : 0 < n) :
    ∃ d ds, Nat.toDigits 10 n = d :: ds ∧ isLeadDigit d = true ∧ Digits ds := by
  induction n using Nat.strongRecOn with
  | ind n ih =>
    by_cases small : n < 10
    · refine ⟨Nat.digitChar n, [], Nat.toDigits_of_lt_base small, ?_, by simp [Digits]⟩
      rw [isLeadDigit_iff, Nat.toNat_digitChar_of_lt_ten small]
      omega
    · obtain ⟨d, ds, front, lead, digits⟩ := ih (n / 10) (by omega) (by omega)
      have whole := digits_toDigits n
      rw [Nat.toDigits_of_base_le (by decide) (by omega), front, List.cons_append] at whole ⊢
      exact ⟨d, _, rfl, lead, fun c hc => whole c (List.mem_cons_of_mem _ hc)⟩

end

/-! ## Points -/

section
variable {s r xs gs : List Char}

/-- No point stands among three digits or fewer. -/
theorem separate_of_length_le (h : s.length ≤ 3) : separate s = s := by
  rw [separate]
  intro x y z next rest e
  subst e
  simp only [List.length_cons] at h
  omega

/-- Points are put before groups as if these stood alone. -/
theorem separate_append (h : Groups gs) (ne : r ≠ []) :
    separate ((gs.filter Char.isDigit).reverse ++ r) = gs.reverse ++ separate r := by
  induction h generalizing r with
  | nil => rfl
  | @cons x y z rest digits _ ih =>
    obtain ⟨next, r, rfl⟩ := List.exists_cons_of_ne_nil ne
    have kept : ('.' :: x :: y :: z :: rest).filter Char.isDigit =
        [x, y, z] ++ rest.filter Char.isDigit := by
      have front : ('.' :: [x, y, z]).filter Char.isDigit = [x, y, z] := by
        rw [List.filter_cons_of_neg (by decide), filter_isDigit_of_digits digits]
      rw [← front, ← List.filter_append]
      rfl
    have moved : ([x, y, z] ++ rest.filter Char.isDigit).reverse ++ next :: r =
        (rest.filter Char.isDigit).reverse ++ z :: y :: x :: next :: r := by simp
    rw [kept, moved, ih (List.cons_ne_nil _ _), separate]
    simp

/-- **The points of a number stand before the groups** that follow one to three digits. -/
theorem grouped_eq_append {n : Nat} (lead : List Char) (h : Groups gs) (ne : lead ≠ [])
    (short : lead.length ≤ 3) (e : Nat.toDigits 10 n = lead ++ gs.filter Char.isDigit) :
    grouped n = lead ++ gs := by
  have left : separate lead.reverse = lead.reverse := separate_of_length_le (by simpa using short)
  rw [grouped, e, List.reverse_append, separate_append h (by simpa using ne), left,
    List.reverse_append, List.reverse_reverse, List.reverse_reverse]

/-- As many digits as three divides are those of groups. -/
theorem exists_groups (k : Nat) (digits : Digits xs) (length : xs.length = 3 * k) :
    ∃ gs, Groups gs ∧ gs.filter Char.isDigit = xs := by
  induction k generalizing xs with
  | zero => exact ⟨[], Groups.nil, (List.eq_nil_of_length_eq_zero (by omega)).symm⟩
  | succ k ih =>
    obtain ⟨x, y, z, xs, rfl⟩ : ∃ x y z rest, xs = x :: y :: z :: rest := by
      match xs with
      | [] | [_] | [_, _] => simp only [List.length_cons, List.length_nil] at length; omega
      | x :: y :: z :: rest => exact ⟨x, y, z, rest, rfl⟩
    have group : Digits [x, y, z] := fun c hc => digits c (List.mem_append_left xs hc)
    obtain ⟨gs, groups, later⟩ := ih (fun c hc => digits c (List.mem_append_right [x, y, z] hc))
      (by simp only [List.length_cons] at length; omega)
    refine ⟨_, Groups.cons group groups, ?_⟩
    rw [List.filter_cons_of_neg (by decide)]
    show ([x, y, z] ++ gs).filter Char.isDigit = [x, y, z] ++ xs
    rw [List.filter_append, filter_isDigit_of_digits group, later]

theorem length_filter_isDigit_groups (h : Groups gs) :
    (gs.filter Char.isDigit).length % 3 = 0 ∧ (gs ≠ [] → gs.filter Char.isDigit ≠ []) := by
  induction h with
  | nil => simp
  | @cons x y z rest digits _ ih =>
    rw [List.filter_cons_of_neg (by decide)]
    show (([x, y, z] ++ rest).filter Char.isDigit).length % 3 = 0 ∧
      (_ → ([x, y, z] ++ rest).filter Char.isDigit ≠ [])
    rw [List.filter_append, filter_isDigit_of_digits digits]
    refine ⟨?_, fun _ => List.append_ne_nil_of_left_ne_nil (List.cons_ne_nil _ _) _⟩
    simp only [List.length_append, List.length_cons, List.length_nil]
    omega

/-- Only points are put in. -/
theorem filter_isDigit_separate (h : Digits s) : (separate s).filter Char.isDigit = s := by
  fun_induction separate s with
  | case1 x y z next rest ih =>
    have later := ih fun c hc => h c (List.mem_append_right [x, y, z] hc)
    have front : Digits [x, y, z] := fun c hc => h c (List.mem_append_left (next :: rest) hc)
    show ([x, y, z] ++ '.' :: separate (next :: rest)).filter Char.isDigit = [x, y, z] ++ next :: rest
    rw [List.filter_append, filter_isDigit_of_digits front, List.filter_cons_of_neg (by decide), later]
  | case2 s short => exact filter_isDigit_of_digits h

theorem filter_isDigit_grouped (n : Nat) : (grouped n).filter Char.isDigit = Nat.toDigits 10 n := by
  have digits : Digits (Nat.toDigits 10 n).reverse :=
    fun c hc => digits_toDigits n c (List.mem_reverse.1 hc)
  rw [grouped, List.filter_reverse, filter_isDigit_separate digits, List.reverse_reverse]

/-- A grouped number spells the number. -/
theorem value_grouped (n : Nat) : value (grouped n) = n := by
  rw [value, filter_isDigit_grouped]
  exact Nat.ofDigitChars_ten_toDigits

end

/-! ## Integers -/

/-- An integer of the grammar is the grouped number that it spells. -/
theorem exists_grouped_eq {s : List Char} (h : Integer s) : ∃ n, Groupable n ∧ s = grouped n := by
  cases h with
  | zero => exact ⟨0, .inl (by decide), rfl⟩
  | @short d ds lead digits short =>
    have all := toDigits_value lead digits
    refine ⟨value (d :: ds), .inl ?_, ?_⟩
    · rw [digitCount, all, List.length_cons]
      omega
    · have whole := grouped_eq_append (d :: ds) Groups.nil (List.cons_ne_nil _ _)
        (by rw [List.length_cons]; omega) (by simpa using all)
      rw [whole, List.append_nil]
  | @grouped d ds gs lead digits short groups ne =>
    obtain ⟨multiple, some⟩ := length_filter_isDigit_groups groups
    have inside : Digits (ds ++ gs.filter Char.isDigit) := by
      intro c hc
      rcases List.mem_append.1 hc with hc | hc
      · exact digits c hc
      · exact (List.mem_filter.1 hc).2
    have all := toDigits_value lead inside
    refine ⟨_, .inr ?_, (grouped_eq_append (d :: ds) groups (List.cons_ne_nil _ _) ?_ all).symm⟩
    · rw [digitCount, all, List.length_cons, List.length_append]
      omega
    · rw [List.length_cons]
      omega

/-- A grouped number is an integer of the grammar, unless three digits stand before the first point. -/
theorem integer_grouped {n : Nat} (h : Groupable n) : Integer (grouped n) := by
  rcases Nat.eq_zero_or_pos n with rfl | pos
  · exact Integer.zero
  obtain ⟨d, ds, digits, lead, later⟩ := exists_lead_toDigits pos
  have count : digitCount n = ds.length + 1 := congrArg List.length digits
  by_cases short : digitCount n ≤ 3
  · have whole := grouped_eq_append (d :: ds) Groups.nil (List.cons_ne_nil _ _)
      (by rw [List.length_cons]; omega) (by simpa using digits)
    rw [whole, List.append_nil]
    exact Integer.short lead later (by omega)
  · -- one digit or two are left over; they stand before the first point
    have left : digitCount n % 3 ≠ 0 := h.resolve_left short
    generalize hr : digitCount n % 3 - 1 = r at *
    have behind : Digits (ds.drop r) := fun c hc => later c (List.mem_of_mem_drop hc)
    obtain ⟨gs, groups, kept⟩ :=
      exists_groups (digitCount n / 3) behind (by rw [List.length_drop]; omega)
    have front : (ds.take r).length = r := by rw [List.length_take]; omega
    have split : Nat.toDigits 10 n = (d :: ds.take r) ++ gs.filter Char.isDigit := by
      rw [digits, kept, List.cons_append, List.take_append_drop]
    have short : (d :: ds.take r).length ≤ 3 := by rw [List.length_cons]; omega
    rw [grouped_eq_append _ groups (List.cons_ne_nil _ _) short split]
    refine Integer.grouped lead (fun c hc => later c (List.mem_of_mem_take hc)) (by omega) groups ?_
    rintro rfl
    have none := congrArg List.length kept
    rw [List.length_drop] at none
    simp only [List.filter_nil, List.length_nil] at none
    omega

/-- **The integers of the grammar are the grouped numbers** of groupable count. -/
theorem integer_iff_grouped (s : List Char) : Integer s ↔ ∃ n, Groupable n ∧ s = grouped n :=
  ⟨exists_grouped_eq, by rintro ⟨n, h, rfl⟩; exact integer_grouped h⟩

/-! ## Amounts of digits and points -/

theorem isSymbolChar_of_isPlainChar {c : Char} (h : isPlainChar c = true) : isSymbolChar c = false := by
  simp only [isPlainChar, isIntegerChar, Bool.or_eq_true, beq_iff_eq] at h
  rcases h with (digit | rfl) | rfl
  · exact isSymbolChar_of_isDigit digit
  · rfl
  · rfl

/-- Before a comma and decimals, digits and points are an amount exactly if they are an integer. -/
theorem line_iff_integer {s f : List Char} (inside : DigitsAndPoints s) (fraction : Fraction f) :
    Line (s ++ ',' :: f) ↔ Integer s := by
  have alphabet : ∀ c ∈ s, isIntegerChar c = true := by
    intro c hc
    rcases inside c hc with digit | rfl
    · exact isIntegerChar_of_isDigit digit
    · rfl
  have first : ∀ c, (s ++ ',' :: f).head? = some c → isPlainChar c = true := by
    intro c hc
    cases s with
    | nil => cases hc; rfl
    | cons a s =>
      cases hc
      rw [isPlainChar, alphabet _ List.mem_cons_self, Bool.true_or]
  constructor
  · intro line
    have signed : Signed (s ++ ',' :: f) :=
      signed_iff.2 ⟨line, fun c hc => isSymbolChar_of_isPlainChar (first c hc)⟩
    generalize hw : s ++ ',' :: f = w at signed first
    cases signed with
    | minus _ => exact absurd (first '-' rfl) (by decide)
    | parentheses _ => exact absurd (first '(' rfl) (by decide)
    | bare plain =>
      cases plain with
      | @mk i f' integer _ =>
        have comma : ∀ t, Stops isIntegerChar (',' :: t) := fun t => stops_cons.2 rfl
        obtain ⟨rfl, -⟩ := eq_of_stops alphabet (comma f) integer.inside (comma f') hw
        exact integer
  · exact fun integer => Line.bare (Signed.bare (Plain.mk integer fraction))

/-- Both judgements accept the lines of the grammar. -/
theorem judgement_iff {judge : String → Bool} (h : judge ∈ [isValid, Scan.accepts]) (s : List Char) :
    judge (String.ofList s) = true ↔ Line s := by
  rw [judgement_iff_line h, String.toList_ofList]

/-- **The numbers that have a spelling have one.** Before a comma and two decimals or more, digits and
points are accepted exactly if they are the grouped form of a number of at most three digits or of a count
of digits that three does not divide. So each such number is spelt by one integer, and a number of six,
nine, twelve and so on digits by none. All of this holds of either judgement. -/
theorem accepted_iff_grouped :
    ∀ judge ∈ [isValid, Scan.accepts], ∀ f : List Char, Digits f → 2 ≤ f.length →
      (∀ s : List Char, DigitsAndPoints s →
        (judge (String.ofList (s ++ ',' :: f)) = true ↔
          ∃ n, s = grouped n ∧ (digitCount n ≤ 3 ∨ digitCount n % 3 ≠ 0))) ∧
      (∀ n, digitCount n ≤ 3 ∨ digitCount n % 3 ≠ 0 →
        ∃! s : List Char, DigitsAndPoints s ∧ value s = n ∧
          judge (String.ofList (s ++ ',' :: f)) = true) ∧
      ∀ n, 3 < digitCount n → digitCount n % 3 = 0 →
        ∀ s : List Char, DigitsAndPoints s → value s = n →
          judge (String.ofList (s ++ ',' :: f)) = false := by
  intro judge hj f digits two
  have accepted : ∀ s, DigitsAndPoints s →
      (judge (String.ofList (s ++ ',' :: f)) = true ↔ ∃ n, Groupable n ∧ s = grouped n) := by
    intro s inside
    rw [judgement_iff hj, line_iff_integer inside ⟨digits, two⟩, integer_iff_grouped]
  -- what is accepted spells the number of which it is the grouped form
  have unique : ∀ s, DigitsAndPoints s → judge (String.ofList (s ++ ',' :: f)) = true →
      Groupable (value s) ∧ s = grouped (value s) := by
    intro s inside h
    obtain ⟨n, groupable, rfl⟩ := (accepted s inside).1 h
    rw [value_grouped]
    exact ⟨groupable, rfl⟩
  refine ⟨?_, ?_, ?_⟩
  · intro s inside
    rw [accepted s inside]
    exact exists_congr fun n => and_comm
  · intro n groupable
    have inside : DigitsAndPoints (grouped n) := by
      intro c hc
      have alphabet := (integer_grouped groupable).inside c hc
      simpa [isIntegerChar] using alphabet
    refine ⟨grouped n, ⟨inside, value_grouped n, (accepted _ inside).2 ⟨n, groupable, rfl⟩⟩, ?_⟩
    rintro s ⟨inside', rfl, h⟩
    exact (unique s inside' h).2
  · rintro _ long divided s inside rfl
    refine Bool.eq_false_iff.2 fun h => ?_
    rcases (unique s inside h).1 with short | left
    · omega
    · exact left divided

/-- Eight digits have one spelling, with two digits before the first point, and six have none: as they
would have three there. -/
theorem accepted_iff_grouped_eight_not_six :
    let f := ['0', '0', '9']
    let eight := ['1', '2', '.', '3', '4', '5', '.', '6', '7', '8']
    let six := ['1', '2', '3', '.', '4', '5', '6']
    (isValid (String.ofList (eight ++ ',' :: f)) = true ∧ eight = grouped 12345678) ∧
      (∃! s : List Char, DigitsAndPoints s ∧ value s = 12345678 ∧
        Scan.accepts (String.ofList (s ++ ',' :: f)) = true) ∧
      six = grouped 123456 ∧ Scan.accepts (String.ofList (six ++ ',' :: f)) = false := by
  intro f eight six
  have digits : Digits f := by decide
  have inside : DigitsAndPoints eight ∧ DigitsAndPoints six := by decide
  have eightGrouped : eight = grouped 12345678 := by decide
  have sixGrouped : six = grouped 123456 := by decide
  obtain ⟨accepted, -, -⟩ := accepted_iff_grouped isValid List.mem_cons_self f digits (by decide)
  obtain ⟨-, unique, refused⟩ := accepted_iff_grouped Scan.accepts (by simp) f digits (by decide)
  have eightDigits : digitCount 12345678 = 8 := by decide
  have sixDigits : digitCount 123456 = 6 := by decide
  refine ⟨⟨(accepted eight inside.1).2 ⟨12345678, eightGrouped, .inr (by omega)⟩, eightGrouped⟩,
    unique 12345678 (.inr (by omega)), sixGrouped, ?_⟩
  exact refused 123456 (by omega) (by omega) six inside.2 (by rw [sixGrouped, value_grouped])

end AmountReport.Amount
