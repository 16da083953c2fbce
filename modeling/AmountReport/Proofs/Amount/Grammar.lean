import AmountReport.Amount.Grammar
import AmountReport.Proofs.Utf8

/-!
# Where the texts of a rule end

Each rule of the grammar has an alphabet, and what follows a text of the rule in an amount is never of
that alphabet: a sign, a parenthesis or a digit after a symbol, a comma after an integer, a parenthesis
after a plain amount. So there is no choice where such a text ends (`length_le_of_stops`,
`eq_of_stops`).
-/

namespace AmountReport.Amount

/-! ## Runs of a class -/

/-- The text does not begin with a character of the class. -/
def Stops (p : Char → Bool) (s : List Char) : Prop := ∀ c, s.head? = some c → p c = false

@[simp] theorem stops_nil {p : Char → Bool} : Stops p [] := by simp [Stops]

@[simp] theorem stops_cons {p : Char → Bool} {c : Char} {s : List Char} :
    Stops p (c :: s) ↔ p c = false := by
  simp [Stops]

section
variable {p : Char → Bool} {s u v w : List Char}

/-- No run of the class goes on where the class stops. -/
theorem length_le_of_stops (inside : ∀ c ∈ u, p c = true) (stops : Stops p w)
    (h : s ++ w = u ++ v) : u.length ≤ s.length := by
  induction s generalizing u with
  | nil =>
    cases u with
    | nil => simp
    | cons c u =>
      have outside : p c = false := stops c (by rw [← List.nil_append w, h]; rfl)
      rw [inside c (by simp)] at outside
      cases outside
  | cons a s ih =>
    cases u with
    | nil => simp
    | cons c u =>
      have := ih (fun d hd => inside d (by simp [hd])) (List.cons.inj h).2
      simp only [List.length_cons]
      omega

/-- Two runs of the class that both end where it stops are one. -/
theorem eq_of_stops (hs : ∀ c ∈ s, p c = true) (hw : Stops p w) (hu : ∀ c ∈ u, p c = true)
    (hv : Stops p v) (h : s ++ w = u ++ v) : s = u ∧ w = v := by
  have := length_le_of_stops hu hw h
  have := length_le_of_stops hs hv h.symm
  exact List.append_inj h (by omega)

/-- A text of the class in front of another one is part of the run that ends where the class stops. -/
theorem exists_append_of_stops (inside : ∀ c ∈ u, p c = true) (stops : Stops p w)
    (h : s ++ w = u ++ v) : ∃ t, s = u ++ t ∧ v = t ++ w := by
  have front : u <+: s :=
    List.prefix_of_prefix_length_le (List.prefix_append u v) (h ▸ List.prefix_append s w)
      (length_le_of_stops inside stops h)
  obtain ⟨t, rfl⟩ := front
  rw [List.append_assoc] at h
  exact ⟨t, rfl, (List.append_cancel_left h).symm⟩

end

/-! ## Classes by code point -/

theorem isDigit_iff {c : Char} : c.isDigit = true ↔ 48 ≤ c.toNat ∧ c.toNat ≤ 57 :=
  Char.isDigit_iff_toNat

theorem isLeadDigit_iff {c : Char} : isLeadDigit c = true ↔ 49 ≤ c.toNat ∧ c.toNat ≤ 57 := by
  simp only [isLeadDigit, Bool.and_eq_true, decide_eq_true_eq, Char.le_def, UInt32.le_iff_toNat_le]
  exact Iff.rfl

theorem isAlpha_iff {c : Char} :
    c.isAlpha = true ↔ 65 ≤ c.toNat ∧ c.toNat ≤ 90 ∨ 97 ≤ c.toNat ∧ c.toNat ≤ 122 := by
  have upper : c.isUpper = decide (c.val ≥ 'A'.val ∧ c.val ≤ 'Z'.val) := rfl
  have lower : c.isLower = (decide (c.val ≥ 'a'.val) && decide (c.val ≤ 'z'.val)) := rfl
  rw [show c.isAlpha = (c.isUpper || c.isLower) from rfl, upper, lower]
  simp only [Bool.or_eq_true, Bool.and_eq_true, decide_eq_true_eq, ge_iff_le,
    UInt32.le_iff_toNat_le]
  exact Iff.rfl

theorem isDigit_of_isLeadDigit {c : Char} (h : isLeadDigit c = true) : c.isDigit = true := by
  rw [isLeadDigit_iff] at h
  rw [isDigit_iff]
  omega

theorem isAlpha_of_isDigit {c : Char} (h : c.isDigit = true) : c.isAlpha = false := by
  rw [isDigit_iff] at h
  rw [Bool.eq_false_iff, ne_eq, isAlpha_iff]
  omega

/-! ## Alphabets -/

def isIntegerChar (c : Char) : Bool := c.isDigit || c == '.'

def isPlainChar (c : Char) : Bool := isIntegerChar c || c == ','

def isSymbolChar (c : Char) : Bool := c.isAlpha || c == '$'

theorem isIntegerChar_of_isDigit {c : Char} (h : c.isDigit = true) : isIntegerChar c = true := by
  simp [isIntegerChar, h]

theorem isSymbolChar_of_isDigit {c : Char} (h : c.isDigit = true) : isSymbolChar c = false := by
  have : c ≠ '$' := by rintro rfl; cases h
  simp [isSymbolChar, isAlpha_of_isDigit h, this]

theorem Groups.inside {s : List Char} (h : Groups s) : ∀ c ∈ s, isIntegerChar c = true := by
  induction h with
  | nil => simp
  | @cons x y z rest digits _ ih =>
    intro c hc
    rw [show '.' :: x :: y :: z :: rest = '.' :: ([x, y, z] ++ rest) from rfl, List.mem_cons,
      List.mem_append] at hc
    rcases hc with rfl | hc | hc
    · rfl
    · exact isIntegerChar_of_isDigit (digits c hc)
    · exact ih c hc

theorem Integer.inside {s : List Char} (h : Integer s) : ∀ c ∈ s, isIntegerChar c = true := by
  intro c hc
  cases h with
  | zero => rw [List.mem_singleton.1 hc]; rfl
  | short lead digits _ =>
    rcases List.mem_cons.1 hc with rfl | hc
    · exact isIntegerChar_of_isDigit (isDigit_of_isLeadDigit lead)
    · exact isIntegerChar_of_isDigit (digits c hc)
  | grouped lead digits _ groups _ =>
    rw [List.mem_cons, List.mem_append] at hc
    rcases hc with rfl | hc | hc
    · exact isIntegerChar_of_isDigit (isDigit_of_isLeadDigit lead)
    · exact isIntegerChar_of_isDigit (digits c hc)
    · exact groups.inside c hc

theorem Plain.inside {s : List Char} (h : Plain s) : ∀ c ∈ s, isPlainChar c = true := by
  intro c hc
  cases h with
  | mk integer fraction =>
    rw [List.mem_append, List.mem_cons] at hc
    rcases hc with hc | rfl | hc
    · simp [isPlainChar, integer.inside c hc]
    · rfl
    · simp [isPlainChar, isIntegerChar_of_isDigit (fraction.digits c hc)]

theorem Symbol.inside {s : List Char} (h : Symbol s) : ∀ c ∈ s, isSymbolChar c = true := by
  intro c hc
  cases h with
  | dollar => rw [List.mem_singleton.1 hc]; rfl
  | letters letters _ => simp [isSymbolChar, letters c hc]
  | lettersDollar letters _ =>
    rcases List.mem_append.1 hc with hc | hc
    · simp [isSymbolChar, letters c hc]
    · rw [List.mem_singleton.1 hc]; rfl

/-! ## First characters -/

theorem Groups.stops {s : List Char} (h : Groups s) (ne : s ≠ []) (v : List Char) :
    Stops Char.isDigit (s ++ v) := by
  cases h with
  | nil => exact absurd rfl ne
  | cons _ _ => rw [List.cons_append, stops_cons]; rfl

theorem Integer.begins {s : List Char} (h : Integer s) : ∃ c t, s = c :: t ∧ c.isDigit = true := by
  cases h with
  | zero => exact ⟨'0', [], rfl, rfl⟩
  | short lead _ _ => exact ⟨_, _, rfl, isDigit_of_isLeadDigit lead⟩
  | grouped lead _ _ _ _ => exact ⟨_, _, rfl, isDigit_of_isLeadDigit lead⟩

theorem Plain.begins {s : List Char} (h : Plain s) : ∃ c t, s = c :: t ∧ c.isDigit = true := by
  cases h with
  | @mk i f integer _ =>
    obtain ⟨c, t, rfl, digit⟩ := integer.begins
    exact ⟨c, t ++ ',' :: f, rfl, digit⟩

/-- Nothing that may begin an amount could still be part of a symbol. -/
theorem Signed.stops {s : List Char} (h : Signed s) : Stops isSymbolChar s := by
  cases h with
  | minus _ => rw [stops_cons]; rfl
  | parentheses _ => rw [stops_cons]; rfl
  | bare plain =>
    obtain ⟨c, t, rfl, digit⟩ := plain.begins
    rw [stops_cons]
    exact isSymbolChar_of_isDigit digit

theorem Signed.ne_nil {s : List Char} (h : Signed s) : s ≠ [] := by
  cases h with
  | minus _ => simp
  | parentheses _ => simp
  | bare plain => obtain ⟨c, t, rfl, _⟩ := plain.begins; simp

/-- What begins an amount tells its sign. -/
theorem Signed.of_minus {s : List Char} (h : Signed ('-' :: s)) : Plain s := by
  generalize e : '-' :: s = w at h
  cases h with
  | minus plain => rw [(List.cons.inj e).2]; exact plain
  | parentheses _ => exact absurd (List.cons.inj e).1 (by decide)
  | bare plain =>
    obtain ⟨c, t, rfl, digit⟩ := plain.begins
    rw [← (List.cons.inj e).1] at digit
    cases digit

theorem Signed.of_parenthesis {s : List Char} (h : Signed ('(' :: s)) :
    ∃ p, s = p ++ [')'] ∧ Plain p := by
  generalize e : '(' :: s = w at h
  cases h with
  | minus _ => exact absurd (List.cons.inj e).1 (by decide)
  | @parentheses p plain => exact ⟨p, (List.cons.inj e).2, plain⟩
  | bare plain =>
    obtain ⟨c, t, rfl, digit⟩ := plain.begins
    rw [← (List.cons.inj e).1] at digit
    cases digit

/-! ## Symbols may be absent -/

/-- A symbol or nothing: letters, then perhaps a dollar sign. -/
theorem symbol_or_nil_iff {s : List Char} :
    s = [] ∨ Symbol s ↔ ∃ ls, Letters ls ∧ (s = ls ∨ s = ls ++ ['$']) := by
  constructor
  · rintro (rfl | h)
    · exact ⟨[], by simp [Letters], Or.inl rfl⟩
    cases h with
    | dollar => exact ⟨[], by simp [Letters], Or.inr rfl⟩
    | letters letters _ => exact ⟨s, letters, Or.inl rfl⟩
    | lettersDollar letters _ => exact ⟨_, letters, Or.inr rfl⟩
  · rintro ⟨ls, letters, rfl | rfl⟩
    · by_cases ne : s = []
      · exact Or.inl ne
      · exact Or.inr (Symbol.letters letters ne)
    · by_cases ne : ls = []
      · rw [ne]
        exact Or.inr Symbol.dollar
      · exact Or.inr (Symbol.lettersDollar letters ne)

theorem line_iff {s : List Char} :
    Line s ↔ ∃ t a, s = t ++ a ∧ (t = [] ∨ Symbol t) ∧ Signed a := by
  constructor
  · intro h
    cases h with
    | bare signed => exact ⟨[], s, rfl, Or.inl rfl, signed⟩
    | withSymbol symbol signed => exact ⟨_, _, rfl, Or.inr symbol, signed⟩
  · rintro ⟨t, a, rfl, rfl | symbol, signed⟩
    · exact Line.bare signed
    · exact Line.withSymbol symbol signed

/-- A line is letters, then an amount with its sign, perhaps behind a dollar sign. -/
theorem line_iff_letters {s : List Char} :
    Line s ↔ ∃ ls w, Letters ls ∧ s = ls ++ w ∧ (Signed w ∨ ∃ a, w = '$' :: a ∧ Signed a) := by
  rw [line_iff]
  constructor
  · rintro ⟨t, a, rfl, symbol, signed⟩
    obtain ⟨ls, letters, rfl | rfl⟩ := symbol_or_nil_iff.1 symbol
    · exact ⟨t, a, letters, rfl, Or.inl signed⟩
    · exact ⟨ls, '$' :: a, letters, by simp, Or.inr ⟨a, rfl, signed⟩⟩
  · rintro ⟨ls, w, letters, rfl, signed | ⟨a, rfl, signed⟩⟩
    · exact ⟨ls, w, rfl, symbol_or_nil_iff.2 ⟨ls, letters, Or.inl rfl⟩, signed⟩
    · exact ⟨ls ++ ['$'], a, by simp, symbol_or_nil_iff.2 ⟨ls, letters, Or.inr rfl⟩, signed⟩

theorem inside_of_symbol_or_nil {s : List Char} (h : s = [] ∨ Symbol s) :
    ∀ c ∈ s, isSymbolChar c = true := by
  rcases h with rfl | symbol
  · simp
  · exact symbol.inside

/-- A text that does not begin with a symbol is a line exactly if it is an amount with its sign. -/
theorem signed_iff {s : List Char} : Signed s ↔ Line s ∧ Stops isSymbolChar s := by
  constructor
  · exact fun signed => ⟨Line.bare signed, signed.stops⟩
  · rintro ⟨line, begun⟩
    obtain ⟨t, a, rfl, symbol, signed⟩ := line_iff.1 line
    obtain ⟨rfl, -⟩ := eq_of_stops (s := []) (by simp) begun (inside_of_symbol_or_nil symbol)
      signed.stops rfl
    exact signed

/-- A text that begins with a digit is a line exactly if it is a plain amount. -/
theorem plain_iff {s : List Char} : Plain s ↔ Line s ∧ ∃ c ∈ s.head?, c.isDigit = true := by
  constructor
  · intro plain
    obtain ⟨c, t, rfl, digit⟩ := plain.begins
    exact ⟨Line.bare (Signed.bare plain), c, rfl, digit⟩
  · rintro ⟨line, c, first, digit⟩
    have signed : Signed s := by
      refine signed_iff.2 ⟨line, fun d hd => ?_⟩
      rw [first] at hd
      cases hd
      exact isSymbolChar_of_isDigit digit
    cases signed with
    | minus _ => cases first; cases digit
    | parentheses _ => cases first; cases digit
    | bare plain => exact plain

/-! ## Amounts are visible -/

/-- The character is of ASCII, and neither a control nor a space. -/
def Visible (c : Char) : Prop := 0x21 ≤ c.toNat ∧ c.toNat ≤ 0x7E

instance (c : Char) : Decidable (Visible c) := inferInstanceAs (Decidable (_ ∧ _))

theorem visible_of_isPlainChar {c : Char} (h : isPlainChar c = true) : Visible c := by
  simp only [isPlainChar, isIntegerChar, Bool.or_eq_true, beq_iff_eq, isDigit_iff] at h
  rcases h with (h | rfl) | rfl
  · exact ⟨by omega, by omega⟩
  · decide
  · decide

theorem visible_of_isSymbolChar {c : Char} (h : isSymbolChar c = true) : Visible c := by
  simp only [isSymbolChar, Bool.or_eq_true, beq_iff_eq, isAlpha_iff] at h
  rcases h with h | rfl
  · exact ⟨by omega, by omega⟩
  · decide

theorem Plain.visible {s : List Char} (h : Plain s) : ∀ c ∈ s, Visible c :=
  fun c hc => visible_of_isPlainChar (h.inside c hc)

theorem Signed.visible {s : List Char} (h : Signed s) : ∀ c ∈ s, Visible c := by
  intro c hc
  cases h with
  | minus plain =>
    rcases List.mem_cons.1 hc with rfl | hc
    · decide
    · exact plain.visible c hc
  | parentheses plain =>
    rw [List.mem_cons, List.mem_append, List.mem_singleton] at hc
    rcases hc with rfl | hc | rfl
    · decide
    · exact plain.visible c hc
    · decide
  | bare plain => exact plain.visible c hc

theorem Line.visible {s : List Char} (h : Line s) : ∀ c ∈ s, Visible c := by
  intro c hc
  cases h with
  | bare signed => exact signed.visible c hc
  | withSymbol symbol signed =>
    rcases List.mem_append.1 hc with hc | hc
    · exact visible_of_isSymbolChar (symbol.inside c hc)
    · exact signed.visible c hc

theorem Line.ascii {s : List Char} (h : Line s) : Utf8.Ascii s := by
  intro c hc
  have := (h.visible c hc).2
  omega

end AmountReport.Amount
