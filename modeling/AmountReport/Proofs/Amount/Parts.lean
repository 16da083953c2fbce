import AmountReport.Proofs.Amount.Agreement

/-!
# The one reading of an amount

A derivation of a line, read flat, cuts it into symbol, sign, integer and decimals (`line_iff_parts`).
Each part ends where its alphabet does, so a text has one such cut at most (`Parts.eq_of_text_eq`). The
scan takes the longest text of each rule, and behind a part no text of its alphabet follows: so the scan
stands at the end of each part when the rule for it is done (`Scan.Follows`).

Main statement: the scan accepts exactly the texts that have one cut into well-formed parts, and follows
that cut (`accepts_iff_existsUnique_parts`).
-/

namespace AmountReport.Amount

/-! ## Cuts into parts -/

/-- The sign that a text behind a symbol begins with. -/
def Sign.begun : List Char → Sign
  | '-' :: _ => .minus
  | '(' :: _ => .parentheses
  | _ => .none

/-- The end of the text, or a parenthesis, ends a number. -/
theorem Sign.stops_closing (sign : Sign) : Stops isPlainChar sign.closing := by
  cases sign with
  | none => exact stops_nil
  | minus => exact stops_nil
  | parentheses => exact stops_cons.2 rfl

/-- A comma ends an integer. -/
theorem stops_comma_cons (s : List Char) : Stops isIntegerChar (',' :: s) := stops_cons.2 rfl

namespace Parts

variable {p q : Parts}

/-- The text behind the symbol. -/
def body (p : Parts) : List Char := p.sign.opening ++ (p.number ++ p.sign.closing)

theorem WellFormed.plain (h : p.WellFormed) : Plain p.number := Plain.mk h.integer h.fraction

theorem WellFormed.signed (h : p.WellFormed) : Signed p.body := by
  have plain := h.plain
  unfold body
  cases p.sign with
  | none => simpa [Sign.opening, Sign.closing] using Signed.bare plain
  | minus => simpa [Sign.opening, Sign.closing] using Signed.minus plain
  | parentheses => exact Signed.parentheses plain

theorem WellFormed.begun_body (h : p.WellFormed) : Sign.begun p.body = p.sign := by
  obtain ⟨c, s, number, digit⟩ := h.plain.begins
  unfold body
  cases p.sign with
  | none =>
    rw [number]
    show Sign.begun (c :: (s ++ [])) = .none
    unfold Sign.begun
    split
    · rename_i e
      rw [(List.cons.inj e).1] at digit
      cases digit
    · rename_i e
      rw [(List.cons.inj e).1] at digit
      cases digit
    · rfl
  | minus => rfl
  | parentheses => rfl

/-- **A text has one cut at most.** -/
theorem eq_of_text_eq (hp : p.WellFormed) (hq : q.WellFormed) (h : p.text = q.text) : p = q := by
  obtain ⟨symbol, body⟩ := eq_of_stops (inside_of_symbol_or_nil hp.symbol) hp.signed.stops
    (inside_of_symbol_or_nil hq.symbol) hq.signed.stops h
  have sign : p.sign = q.sign := by rw [← hp.begun_body, body, hq.begun_body]
  have number : p.number = q.number := by
    unfold Parts.body at body
    rw [sign] at body
    exact List.append_cancel_right (List.append_cancel_left body)
  obtain ⟨integer, fraction⟩ := eq_of_stops hp.integer.inside (stops_comma_cons _)
    hq.integer.inside (stops_comma_cons _) number
  obtain ⟨_, _, _, _⟩ := p
  obtain ⟨_, _, _, _⟩ := q
  cases symbol
  cases sign
  cases integer
  cases fraction
  rfl

end Parts

/-- An amount with its sign is the body of a cut. -/
theorem signed_iff_body {s : List Char} :
    Signed s ↔ ∃ sign i f, Integer i ∧ Fraction f ∧ s = Parts.body ⟨[], sign, i, f⟩ := by
  constructor
  · intro h
    cases h with
    | minus plain =>
      obtain ⟨integer, fraction⟩ := plain
      refine ⟨.minus, _, _, integer, fraction, ?_⟩
      simp [Parts.body, Parts.number, Sign.opening, Sign.closing]
    | parentheses plain =>
      obtain ⟨integer, fraction⟩ := plain
      exact ⟨.parentheses, _, _, integer, fraction, rfl⟩
    | bare plain =>
      obtain ⟨integer, fraction⟩ := plain
      refine ⟨.none, _, _, integer, fraction, ?_⟩
      simp [Parts.body, Parts.number, Sign.opening, Sign.closing]
  · rintro ⟨sign, i, f, integer, fraction, rfl⟩
    exact Parts.WellFormed.signed ⟨.inl rfl, integer, fraction⟩

/-- **A line is a text that has a cut.** -/
theorem line_iff_parts {s : List Char} : Line s ↔ ∃ p : Parts, p.WellFormed ∧ p.text = s := by
  rw [line_iff]
  constructor
  · rintro ⟨t, a, rfl, symbol, signed⟩
    obtain ⟨sign, i, f, integer, fraction, rfl⟩ := signed_iff_body.1 signed
    exact ⟨⟨t, sign, i, f⟩, ⟨symbol, integer, fraction⟩, rfl⟩
  · rintro ⟨p, wellFormed, rfl⟩
    exact ⟨p.symbol, p.body, rfl, wellFormed.symbol, wellFormed.signed⟩

namespace Scan

open Utf8 (charsOf)

/-! ## The scan of a cut text -/

/-- Where the number of an amount begins: behind a minus or an opening parenthesis, if there is one. -/
def unsigned (bytes : List UInt8) : List UInt8 :=
  match take '-' bytes with
  | (true, rest) => rest
  | (false, _) => (take '(' bytes).2

/-- An amount is a number from there on, then a closing parenthesis if one was opened. -/
theorem signed_eq (bytes : List UInt8) :
    signed bytes =
      match plain (unsigned bytes) with
      | (true, rest) => if (take '(' bytes).1 then take ')' rest else (true, rest)
      | (false, rest) => (false, rest) := by
  rcases take_cases (c := '-') (by decide) bytes with ⟨rest, minus, hb⟩ | ⟨noMinus, _⟩
  · rcases take_cases (c := '(') (by decide) bytes with ⟨_, _, hb'⟩ | ⟨noParenthesis, _⟩
    · rw [hb] at hb'
      exact absurd (List.cons.inj hb').1 (by decide)
    · simp only [signed, unsigned, minus, noParenthesis]
      obtain ⟨_ | _, _⟩ := plain rest <;> rfl
  · rcases take_cases (c := '(') (by decide) bytes with ⟨rest, parenthesis, _⟩ | ⟨noParenthesis, _⟩
    · simp only [signed, unsigned, noMinus, parenthesis]
      obtain ⟨_ | _, _⟩ := plain rest <;> rfl
    · simp only [signed, unsigned, noMinus, noParenthesis]
      obtain ⟨_ | _, _⟩ := plain bytes <;> rfl

/-- The scan of some bytes goes along a cut: it has behind it the symbol when the rule for symbols is
done, the sign too where the number begins, then the integer when the rule for integers is done, and the
number when the rule for plain amounts is, with nothing left behind the closing parenthesis, if there is
one. -/
structure Follows (bytes : List UInt8) (p : Parts) : Prop where
  symbol : skipSymbol bytes = bytes.drop p.symbol.length
  number : unsigned (skipSymbol bytes) = bytes.drop (p.symbol ++ p.sign.opening).length
  integer : integer (unsigned (skipSymbol bytes)) =
    (true, bytes.drop (p.symbol ++ p.sign.opening ++ p.integer).length)
  plain : plain (unsigned (skipSymbol bytes)) =
    (true, bytes.drop (p.symbol ++ p.sign.opening ++ p.number).length)
  signed : signed (skipSymbol bytes) = (true, [])

section
variable {bytes rest : List UInt8} {p : Parts}

/-- What is left behind some characters is what comes after as many bytes. -/
theorem eq_drop_of_charsOf {u : List Char} (h : charsOf bytes = u ++ charsOf rest) :
    rest = bytes.drop u.length := by
  have injective : Function.Injective Utf8.charOf := by
    intro a b e
    have number := congrArg Char.toNat e
    rw [Utf8.toNat_charOf, Utf8.toNat_charOf] at number
    exact UInt8.toNat_inj.1 number
  have same : charsOf (bytes.drop u.length) = charsOf rest := by
    rw [charsOf, List.map_drop, ← charsOf, h, List.drop_left]
  exact (List.map_injective_iff.2 injective same).symm

theorem charsOf_unsigned (h : p.WellFormed) (hb : charsOf bytes = p.body) :
    charsOf (unsigned bytes) = p.number ++ p.sign.closing := by
  have sign := h.begun_body
  rw [← hb] at sign
  unfold Parts.body at hb
  rcases take_cases (c := '-') (by decide) bytes with ⟨rest, minus, e⟩ | ⟨noMinus, none⟩
  · have is : p.sign = .minus := by rw [← sign, e]; rfl
    rw [is, e] at hb
    simp only [unsigned, minus]
    rw [is]
    exact (List.cons.inj hb).2
  rcases take_cases (c := '(') (by decide) bytes with ⟨rest, parenthesis, e⟩ | ⟨noParenthesis, none'⟩
  · have is : p.sign = .parentheses := by rw [← sign, e]; rfl
    rw [is, e] at hb
    simp only [unsigned, noMinus, parenthesis]
    rw [is]
    exact (List.cons.inj hb).2
  · simp only [unsigned, noMinus, noParenthesis]
    cases is : p.sign with
    | none => rw [hb, is]; rfl
    | minus => rw [is] at hb; exact absurd hb (none _)
    | parentheses => rw [is] at hb; exact absurd hb (none' _)

/-- **The scan goes along the cut of a text.** -/
theorem follows_of_text (h : p.WellFormed) (hb : charsOf bytes = p.text) : Follows bytes p := by
  have behindSymbol : charsOf (skipSymbol bytes) = p.body := by
    obtain ⟨rest, e, hr⟩ := (longest_symbol bytes).of_stops (fun _ => inside_of_symbol_or_nil)
      h.symbol hb h.signed.stops
    cases e
    exact hr
  have number := charsOf_unsigned h behindSymbol
  have atInteger : charsOf (unsigned (skipSymbol bytes)) =
      p.integer ++ ',' :: (p.fraction ++ p.sign.closing) := by
    rw [number, Parts.number, List.append_assoc, List.cons_append]
  obtain ⟨behindInteger, integer, hi⟩ := (longest_integer _).of_stops (fun _ => Integer.inside)
    h.integer atInteger (stops_comma_cons _)
  obtain ⟨behindNumber, plain, hn⟩ := (longest_plain _).of_stops (fun _ => Plain.inside)
    h.plain number p.sign.stops_closing
  constructor
  · exact eq_drop_of_charsOf (by rw [hb, behindSymbol]; rfl)
  · refine eq_drop_of_charsOf ?_
    rw [hb, number, List.append_assoc]
    rfl
  · rw [integer]
    refine congrArg (Prod.mk true) (eq_drop_of_charsOf ?_)
    rw [hb, hi]
    simp [Parts.text, Parts.number]
  · rw [plain]
    refine congrArg (Prod.mk true) (eq_drop_of_charsOf ?_)
    rw [hb, hn]
    simp [Parts.text]
  · refine (longest_signed _).whole.2 ?_
    rw [behindSymbol]
    exact h.signed

end

end Scan

/-- **An amount has one reading, and the scan follows it.** The scan accepts a text exactly if there is one
and only one way to cut it into a symbol or nothing, a minus, parenthesis or nothing, an integer, a comma,
decimals, and a closing parenthesis if one was opened. When the rule for symbols is done, the scan stands
behind the symbol of that cut; when the rule for integers is done, behind the integer; when the rule for
plain amounts is done, behind the decimals. That rule, and in it the one for integers, is taken up where
`Scan.unsigned` says, whatever the bytes are. -/
theorem accepts_iff_existsUnique_parts (text : String) :
    (Scan.accepts text = true ↔ ∃! p : Parts, p.WellFormed ∧ p.text = text.toList) ∧
      (∀ p : Parts, p.WellFormed → p.text = text.toList →
        Scan.Follows (Utf8.encode text.toList) p) ∧
      ∀ bytes : List UInt8, Scan.signed bytes =
        match Scan.plain (Scan.unsigned bytes) with
        | (true, rest) => if (Scan.take '(' bytes).1 then Scan.take ')' rest else (true, rest)
        | (false, rest) => (false, rest) := by
  have accepted : Scan.accepts text = true ↔ ∃ p : Parts, p.WellFormed ∧ p.text = text.toList := by
    rw [Scan.accepts, Scan.acceptsBytes_encode_iff, line_iff_parts]
  refine ⟨accepted.trans ⟨?_, fun unique => unique.exists⟩, ?_, Scan.signed_eq⟩
  · rintro ⟨p, wellFormed, cut⟩
    refine ⟨p, ⟨wellFormed, cut⟩, ?_⟩
    rintro q ⟨wellFormed', cut'⟩
    exact Parts.eq_of_text_eq wellFormed' wellFormed (cut'.trans cut.symm)
  · intro p wellFormed cut
    have ascii : Utf8.Ascii text.toList := (line_iff_parts.2 ⟨p, wellFormed, cut⟩).ascii
    exact Scan.follows_of_text wellFormed (by rw [Utf8.charsOf_encode ascii, cut])

/-- The letter belongs to the symbol and the one group to the integer, behind which the parenthesis is
left when the third decimal is taken. -/
theorem accepts_iff_existsUnique_parts_parenthesized :
    let bytes := Utf8.encode "R$(1.234,567)".toList
    let p : Parts := ⟨['R', '$'], .parentheses, ['1', '.', '2', '3', '4'], ['5', '6', '7']⟩
    (∃! q : Parts, q.WellFormed ∧ q.text = "R$(1.234,567)".toList) ∧
      (p.WellFormed ∧ p.text = "R$(1.234,567)".toList) ∧
      Scan.skipSymbol bytes = bytes.drop 2 ∧ Scan.unsigned (bytes.drop 2) = bytes.drop 3 ∧
      Scan.integer (bytes.drop 3) = (true, bytes.drop 8) ∧
      Scan.plain (bytes.drop 3) = (true, bytes.drop 12) := by
  intro bytes p
  have accepted : Scan.accepts "R$(1.234,567)" = true := by decide +kernel
  have symbol : Symbol (['R'] ++ ['$']) := Symbol.lettersDollar (by decide) (by decide)
  have group : Groups ['.', '2', '3', '4'] := Groups.cons (by decide) Groups.nil
  have integer : Integer ('1' :: ([] ++ ['.', '2', '3', '4'])) :=
    Integer.grouped (by decide) (by decide) (by decide) group (by decide)
  have wellFormed : p.WellFormed := ⟨.inr symbol, integer, by decide, by decide⟩
  have cut : p.text = "R$(1.234,567)".toList := by decide
  obtain ⟨unique, follows, -⟩ := accepts_iff_existsUnique_parts "R$(1.234,567)"
  obtain ⟨symbol, number, integer, plain, -⟩ := follows p wellFormed cut
  rw [symbol] at number integer plain
  rw [number] at integer plain
  exact ⟨unique.1 accepted, ⟨wellFormed, cut⟩, symbol, number, integer, plain⟩

end AmountReport.Amount
