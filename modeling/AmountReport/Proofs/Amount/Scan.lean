import AmountReport.Amount.Scan
import AmountReport.Proofs.Amount.Grammar
import Mathlib.Data.List.TakeWhile

/-!
# The scan takes the longest text of each rule

The scan works on bytes and the grammar on characters; they meet where each byte is read as the
character of its number. A rule of the scan answers with the longest text of its language with which
the bytes begin (`Longest`), so nothing that it leaves could have been part of that text. From the
integer up this is no loss: what a shorter choice would leave begins with a character that the
language does not have (`Longest.of_stops`).

Main statement: the scan accepts exactly the bytes of a line (`acceptsBytes_iff`).
-/

namespace AmountReport.Amount.Scan

open Utf8 (charOf charsOf charsOf_nil charsOf_cons charsOf_append toNat_charOf)

/-- What a rule answers that takes the longest text of a language with which the bytes begin. -/
inductive Longest (L : List Char → Prop) (bytes : List UInt8) : Bool × List UInt8 → Prop
  | found {t rest} : L t → charsOf bytes = t ++ charsOf rest →
      (∀ u v, L u → charsOf bytes = u ++ v → u.length ≤ t.length) → Longest L bytes (true, rest)
  | missing {rest} : (∀ u v, L u → charsOf bytes ≠ u ++ v) → Longest L bytes (false, rest)

section
variable {L : List Char → Prop} {bytes : List UInt8} {answer : Bool × List UInt8}

/-- The longest text is all there is exactly if all there is is in the language. -/
theorem Longest.whole (h : Longest L bytes answer) : answer = (true, []) ↔ L (charsOf bytes) := by
  cases h with
  | @found t rest ht e longest =>
    constructor
    · intro all
      cases all
      rw [e]
      simpa using ht
    · intro all
      have := longest _ [] all (List.append_nil _).symm
      rw [e, List.length_append] at this
      have : (charsOf rest).length = 0 := by omega
      have : rest = [] := by simpa [charsOf] using this
      rw [this]
  | missing none =>
    constructor
    · intro all
      cases all
    · intro all
      exact absurd (List.append_nil _).symm (none _ [] all)

/-- A text of the language is what is taken if the rest cannot go on with its alphabet. -/
theorem Longest.of_stops {p : Char → Bool} (h : Longest L bytes answer)
    (inside : ∀ t, L t → ∀ c ∈ t, p c = true) {u v : List Char} (hu : L u)
    (e : charsOf bytes = u ++ v) (stops : Stops p v) :
    ∃ rest, answer = (true, rest) ∧ charsOf rest = v := by
  cases h with
  | @found t rest ht e' longest =>
    have longer := longest u v hu e
    have shorter := length_le_of_stops (inside t ht) stops (e.symm.trans e')
    exact ⟨rest, rfl, (List.append_inj (e'.symm.trans e) (by omega)).2⟩
  | missing none => exact absurd e (none u v hu)

end

/-! ## Classes of bytes -/

theorem isDigit_eq (b : UInt8) : isDigit b = (charOf b).isDigit := by
  rw [Bool.eq_iff_iff, isDigit_iff, toNat_charOf]
  simp only [isDigit, Bool.and_eq_true, decide_eq_true_eq, UInt8.le_iff_toNat_le]
  exact Iff.rfl

theorem isLeadDigit_eq (b : UInt8) : isLeadDigit b = Amount.isLeadDigit (charOf b) := by
  rw [Bool.eq_iff_iff, isLeadDigit_iff, toNat_charOf]
  simp only [isLeadDigit, Bool.and_eq_true, decide_eq_true_eq, UInt8.le_iff_toNat_le]
  exact Iff.rfl

theorem isLetter_eq (b : UInt8) : isLetter b = (charOf b).isAlpha := by
  rw [Bool.eq_iff_iff, isAlpha_iff, toNat_charOf]
  simp only [isLetter, Bool.or_eq_true, Bool.and_eq_true, decide_eq_true_eq, UInt8.le_iff_toNat_le]
  exact Iff.rfl

theorem beq_toUInt8_eq {c : Char} (hc : c.toNat < 0x80) (b : UInt8) :
    (b == c.toUInt8) = (charOf b == c) := by
  have number : c.toUInt8.toNat = c.toNat := by
    have : c.toUInt8.toNat = c.toNat % 256 := rfl
    omega
  rw [Bool.eq_iff_iff, beq_iff_eq, beq_iff_eq, ← UInt8.toNat_inj, ← Char.toNat_inj, toNat_charOf,
    number]

/-! ## Taking bytes -/

section
variable {p : UInt8 → Bool} {q : Char → Bool}

theorem takeIf_cases (same : ∀ b, p b = q (charOf b)) (bytes : List UInt8) :
    (∃ c rest, takeIf p bytes = (true, rest) ∧ charsOf bytes = c :: charsOf rest ∧ q c = true) ∨
      (takeIf p bytes = (false, bytes) ∧ Stops q (charsOf bytes)) := by
  cases bytes with
  | nil => exact Or.inr ⟨rfl, stops_nil⟩
  | cons b bytes =>
    by_cases h : p b = true
    · exact Or.inl ⟨charOf b, bytes, by simp only [takeIf, h, if_true], rfl, by rw [← same, h]⟩
    · refine Or.inr ⟨by simp only [takeIf, h, Bool.false_eq_true, if_false], ?_⟩
      rw [charsOf_cons, stops_cons, ← same]
      simpa using h

theorem take_cases {c : Char} (hc : c.toNat < 0x80) (bytes : List UInt8) :
    (∃ rest, take c bytes = (true, rest) ∧ charsOf bytes = c :: charsOf rest) ∨
      (take c bytes = (false, bytes) ∧ ∀ v, charsOf bytes ≠ c :: v) := by
  rcases takeIf_cases (q := (· == c)) (beq_toUInt8_eq hc) bytes with
    ⟨d, rest, e, hb, hd⟩ | ⟨e, stops⟩
  · rw [beq_iff_eq] at hd
    exact Or.inl ⟨rest, e, by rw [hb, hd]⟩
  · refine Or.inr ⟨e, fun v hv => ?_⟩
    rw [hv, stops_cons, beq_self_eq_true] at stops
    cases stops

/-- Up to `limit` characters of the class are taken, fewer only where the class stops. -/
theorem takeUpTo_spec (same : ∀ b, p b = q (charOf b)) (limit : Nat) (bytes : List UInt8) :
    ∃ s rest, takeUpTo p limit bytes = (s.length, rest) ∧ charsOf bytes = s ++ charsOf rest ∧
      (∀ c ∈ s, q c = true) ∧ s.length ≤ limit ∧
      (s.length < limit → Stops q (charsOf rest)) := by
  induction limit generalizing bytes with
  | zero => exact ⟨[], bytes, rfl, rfl, by simp, by simp, by simp⟩
  | succ limit ih =>
    cases bytes with
    | nil => exact ⟨[], [], rfl, rfl, by simp, by simp, by simp⟩
    | cons b bytes =>
      by_cases h : p b = true
      · obtain ⟨s, rest, e, hb, inside, short, stops⟩ := ih bytes
        refine ⟨charOf b :: s, rest, ?_, ?_, ?_, ?_, ?_⟩
        · simp only [takeUpTo, h, if_true, e, List.length_cons]
        · rw [charsOf_cons, hb, List.cons_append]
        · intro c hc
          rcases List.mem_cons.1 hc with rfl | hc
          · rw [← same, h]
          · exact inside c hc
        · simp only [List.length_cons]; omega
        · intro less
          simp only [List.length_cons] at less
          exact stops (by omega)
      · refine ⟨[], b :: bytes, ?_, rfl, by simp, by simp, fun _ => ?_⟩
        · simp only [takeUpTo, h, Bool.false_eq_true, if_false, List.length_nil]
        · rw [charsOf_cons, stops_cons, ← same]
          simpa using h

/-- A run of the class is taken up to where the class stops. -/
theorem span_spec (same : ∀ b, p b = q (charOf b)) (bytes : List UInt8) :
    charsOf bytes = charsOf (bytes.takeWhile p) ++ charsOf (bytes.dropWhile p) ∧
      (∀ c ∈ charsOf (bytes.takeWhile p), q c = true) ∧
      Stops q (charsOf (bytes.dropWhile p)) := by
  refine ⟨?_, ?_, ?_⟩
  · rw [← charsOf_append, List.takeWhile_append_dropWhile]
  · intro c hc
    obtain ⟨b, hb, rfl⟩ := List.mem_map.1 hc
    rw [← same]
    exact List.mem_takeWhile_imp hb
  · intro c hc
    have stop := List.head?_dropWhile_not p bytes
    rw [charsOf, List.head?_map] at hc
    obtain ⟨b, hb, rfl⟩ := Option.map_eq_some_iff.1 hc
    rw [hb] at stop
    rw [← same]
    exact stop

end

/-! ## Groups -/

theorem group_cases (bytes : List UInt8) :
    (∃ x y z rest, group bytes = (true, rest) ∧ Digits [x, y, z] ∧
        charsOf bytes = '.' :: x :: y :: z :: charsOf rest) ∨
      (group bytes = (false, bytes) ∧
        ∀ x y z v, Digits [x, y, z] → charsOf bytes ≠ '.' :: x :: y :: z :: v) := by
  rcases take_cases (c := '.') (by decide) bytes with ⟨tail, e, hb⟩ | ⟨e, none⟩
  · obtain ⟨s, rest, e', ht, digits, short, stops⟩ := takeUpTo_spec isDigit_eq 3 tail
    by_cases three : s.length = 3
    · obtain ⟨x, y, z, rfl⟩ := List.length_eq_three.1 three
      exact Or.inl ⟨x, y, z, rest, by simp only [group, e, e']; rfl, digits, by rw [hb, ht]; rfl⟩
    · refine Or.inr ⟨?_, fun x y z v digits' h => ?_⟩
      · simp only [group, e, e']
        split
        · rename_i found
          simp only [Prod.mk.injEq] at found
          exact absurd found.1 three
        · rfl
      · rw [hb] at h
        have cut : s ++ charsOf rest = [x, y, z] ++ v := by rw [← ht]; exact (List.cons.inj h).2
        have := length_le_of_stops digits' (stops (by omega)) cut
        simp only [List.length_cons, List.length_nil] at this
        omega
  · exact Or.inr ⟨by simp only [group, e], fun x y z v _ => none _⟩

theorem longest_groups (bytes : List UInt8) : Longest Groups bytes (true, groups bytes) := by
  fun_induction groups bytes with
  | case1 bytes rest found ih =>
    rcases group_cases bytes with ⟨x, y, z, rest', e, digits, hb⟩ | ⟨e, _⟩
    · rw [found] at e
      cases e
      cases ih with
      | found hg hr longest =>
        refine Longest.found (Groups.cons digits hg) (by rw [hb, hr]; rfl) fun u v hu h => ?_
        cases hu with
        | nil => simp
        | cons _ hu =>
          rw [hb] at h
          simp only [List.cons_append, List.cons.injEq] at h
          have := longest _ v hu h.2.2.2.2
          simp only [List.length_cons]
          omega
    · rw [found] at e
      cases e
  | case2 bytes left missing =>
    rcases group_cases bytes with ⟨_, _, _, _, e, _⟩ | ⟨_, none⟩
    · rw [missing] at e
      cases e
    · refine Longest.found Groups.nil rfl fun u v hu h => ?_
      cases hu with
      | nil => simp
      | cons digits _ => exact absurd h (none _ _ _ _ digits)

/-! ## Integers -/

/-- Behind three digits no group is looked for, and no integer goes on there. -/
theorem longest_integer_of_three {bytes rest : List UInt8} {d : Char} {ds : List Char}
    (lead : Amount.isLeadDigit d = true) (digits : Digits ds) (two : ds.length = 2)
    (hb : charsOf bytes = d :: (ds ++ charsOf rest)) : Longest Integer bytes (true, rest) := by
  refine Longest.found (Integer.short lead digits (by omega)) hb fun u v hu h => ?_
  cases hu with
  | zero => simp
  | short _ _ short => simp only [List.length_cons]; omega
  | @grouped d' ds' gs' _ _ short groups ne =>
    rw [hb, List.cons_append, List.append_assoc] at h
    have := length_le_of_stops digits (groups.stops ne v) (List.cons.inj h).2.symm
    omega

/-- Behind one digit or two, the integer takes all groups that follow. -/
theorem longest_integer_of_less {bytes left rest : List UInt8} {d : Char} {ds : List Char}
    (lead : Amount.isLeadDigit d = true) (digits : Digits ds) (less : ds.length < 2)
    (stops : Stops Char.isDigit (charsOf left)) (hb : charsOf bytes = d :: (ds ++ charsOf left))
    (hl : Longest Groups left (true, rest)) : Longest Integer bytes (true, rest) := by
  cases hl with
  | @found gs _ groups hg longest =>
    have whole : Integer (d :: (ds ++ gs)) := by
      by_cases ne : gs = []
      · rw [ne, List.append_nil]
        exact Integer.short lead digits (by omega)
      · exact Integer.grouped lead digits (by omega) groups ne
    refine Longest.found whole (by rw [hb, hg]; simp) fun u v hu h => ?_
    rw [hb] at h
    cases hu with
    | zero => simp
    | short _ digits' _ =>
      have := length_le_of_stops digits' stops (List.cons.inj h).2
      simp only [List.length_cons, List.length_append]
      omega
    | @grouped d' ds' gs' _ digits' _ groups' ne =>
      rw [List.cons_append, List.append_assoc] at h
      obtain ⟨rfl, e⟩ :=
        eq_of_stops digits stops digits' (groups'.stops ne v) (List.cons.inj h).2
      have := longest gs' v groups' e
      simp only [List.length_cons, List.length_append]
      omega

/-- **The scan takes the longest integer.** -/
theorem longest_integer (bytes : List UInt8) : Longest Integer bytes (integer bytes) := by
  rcases take_cases (c := '0') (by decide) bytes with ⟨rest, e, hb⟩ | ⟨e, nonzero⟩
  · simp only [integer, e]
    refine Longest.found Integer.zero hb fun u v hu h => ?_
    rw [hb] at h
    cases hu with
    | zero => simp
    | short lead _ _ => rw [← (List.cons.inj h).1] at lead; cases lead
    | grouped lead _ _ _ _ => rw [← (List.cons.inj h).1] at lead; cases lead
  rcases takeIf_cases isLeadDigit_eq bytes with ⟨d, tail, e', hb, lead⟩ | ⟨e', stops⟩
  · obtain ⟨ds, left, e'', ht, digits, short, stops⟩ := takeUpTo_spec isDigit_eq 2 tail
    rw [ht] at hb
    simp only [integer, e, e', e'']
    split
    · rename_i found
      simp only [Prod.mk.injEq] at found
      obtain ⟨two, rfl⟩ := found
      exact longest_integer_of_three lead digits two hb
    · rename_i other found
      simp only [Prod.mk.injEq] at found
      obtain ⟨rfl, rfl⟩ := found
      have less : ds.length < 2 := by
        have : ds.length ≠ 2 := other
        omega
      exact longest_integer_of_less lead digits less (stops less) hb (longest_groups left)
  · simp only [integer, e, e']
    refine Longest.missing fun u v hu h => ?_
    cases hu with
    | zero => exact nonzero v h
    | short lead _ _ => rw [h, List.cons_append, stops_cons, lead] at stops; cases stops
    | grouped lead _ _ _ _ => rw [h, List.cons_append, stops_cons, lead] at stops; cases stops

/-! ## Amounts -/

/-- A language whose texts are those of another one behind a fixed beginning. -/
theorem Longest.after {L M : List Char → Prop} {bytes rest : List UInt8}
    {answer : Bool × List UInt8} (h : Longest L rest answer) (before : List Char)
    (hb : charsOf bytes = before ++ charsOf rest) (build : ∀ t, L t → M (before ++ t))
    (split : ∀ u v, M u → charsOf bytes = u ++ v → ∃ t, u = before ++ t ∧ L t) :
    Longest M bytes answer := by
  have inner : ∀ u v, M u → charsOf bytes = u ++ v →
      ∃ t, u = before ++ t ∧ L t ∧ charsOf rest = t ++ v := by
    intro u v hu e
    obtain ⟨t, rfl, ht⟩ := split u v hu e
    rw [hb, List.append_assoc] at e
    exact ⟨t, rfl, ht, List.append_cancel_left e⟩
  cases h with
  | @found t last ht e longest =>
    refine Longest.found (build t ht) (by rw [hb, e, List.append_assoc]) fun u v hu h => ?_
    obtain ⟨t', rfl, ht', e'⟩ := inner u v hu h
    have := longest t' v ht' e'
    simp only [List.length_append]
    omega
  | missing none =>
    refine Longest.missing fun u v hu h => ?_
    obtain ⟨t', rfl, ht', e'⟩ := inner u v hu h
    exact none t' v ht' e'

/-- The integer of a plain amount is the one that the scan takes: a comma follows it. -/
theorem integer_of_plain {bytes : List UInt8} {u v : List Char} (hu : Plain u)
    (h : charsOf bytes = u ++ v) :
    ∃ i f rest, u = i ++ ',' :: f ∧ Fraction f ∧ integer bytes = (true, rest) ∧
      charsOf rest = ',' :: (f ++ v) := by
  cases hu with
  | @mk i f integer fraction =>
    rw [List.append_assoc] at h
    obtain ⟨rest, e, hr⟩ :=
      (longest_integer bytes).of_stops (fun _ => Integer.inside) integer h (stops_cons.2 rfl)
    exact ⟨i, f, rest, rfl, fraction, e, hr⟩

theorem longest_plain (bytes : List UInt8) : Longest Plain bytes (plain bytes) := by
  have of_plain := @integer_of_plain bytes
  have taken := longest_integer bytes
  unfold plain
  generalize integer bytes = answer at taken of_plain
  cases taken with
  | missing none =>
    refine Longest.missing fun u v hu h => ?_
    obtain ⟨i, f, rest, rfl, fraction, e, hr⟩ := of_plain hu h
    cases e
  | @found i rest hi hb _ =>
    rcases take_cases (c := ',') (by decide) rest with ⟨tail, e, hr⟩ | ⟨e, none⟩
    · obtain ⟨ht, digits, stops⟩ := span_spec isDigit_eq tail
      have size : (charsOf (tail.takeWhile isDigit)).length = (tail.takeWhile isDigit).length :=
        List.length_map ..
      simp only [e]
      -- the decimals of any plain amount here are among the digits that are taken
      have decimals : ∀ u v, Plain u → charsOf bytes = u ++ v → ∃ f, Fraction f ∧
          u.length = i.length + 1 + f.length ∧
          f.length ≤ (charsOf (tail.takeWhile isDigit)).length := by
        intro u v hu h
        obtain ⟨j, f, rest', rfl, fraction, e', hr'⟩ := of_plain hu h
        cases e'
        rw [hb, hr', List.append_assoc, List.cons_append] at h
        rw [hr, ht] at hr'
        refine ⟨f, fraction, ?_, length_le_of_stops fraction.digits stops (List.cons.inj hr').2⟩
        rw [List.append_cancel_right h, List.length_append, List.length_cons]
        omega
      by_cases two : 2 ≤ (tail.takeWhile isDigit).length
      · rw [decide_eq_true two]
        refine Longest.found (Plain.mk hi ⟨digits, by omega⟩) ?_ fun u v hu h => ?_
        · rw [hb, hr, ht, List.append_assoc, List.cons_append]
        · obtain ⟨f, _, hl, _⟩ := decimals u v hu h
          rw [List.length_append, List.length_cons]
          omega
      · rw [decide_eq_false two]
        refine Longest.missing fun u v hu h => ?_
        obtain ⟨f, fraction, _, _⟩ := decimals u v hu h
        have := fraction.two_le_length
        omega
    · simp only [e]
      refine Longest.missing fun u v hu h => ?_
      obtain ⟨_, f, _, _, _, e', hr⟩ := of_plain hu h
      cases e'
      exact none _ hr

/-- Inside parentheses the plain amount is the one that the scan takes: the second one follows. -/
theorem longest_parenthesized {bytes rest : List UInt8} (hb : charsOf bytes = '(' :: charsOf rest) :
    Longest Signed bytes (match plain rest with
      | (true, rest) => take ')' rest
      | (false, rest) => (false, rest)) := by
  have taken := longest_plain rest
  have inner : ∀ u v, Signed u → charsOf bytes = u ++ v → ∃ p left, u = '(' :: (p ++ [')']) ∧
      plain rest = (true, left) ∧ charsOf rest = p ++ charsOf left ∧ charsOf left = ')' :: v := by
    intro u v hu h
    obtain ⟨c, u, rfl⟩ := List.exists_cons_of_ne_nil hu.ne_nil
    rw [hb, List.cons_append] at h
    obtain ⟨rfl, tail⟩ := List.cons_eq_cons.1 h
    obtain ⟨p, rfl, hp⟩ := hu.of_parenthesis
    rw [List.append_assoc] at tail
    obtain ⟨left, e, hl⟩ := taken.of_stops (fun _ => Plain.inside) hp tail (stops_cons.2 rfl)
    exact ⟨p, left, rfl, e, by rw [hl]; exact tail, hl⟩
  generalize plain rest = answer at taken inner
  cases taken with
  | missing none =>
    refine Longest.missing fun u v hu h => ?_
    obtain ⟨_, _, _, e, _⟩ := inner u v hu h
    cases e
  | @found p left hp hr _ =>
    simp only
    rcases take_cases (c := ')') (by decide) left with ⟨last, e, hl⟩ | ⟨e, none⟩
    · rw [e]
      refine Longest.found (Signed.parentheses hp) (by rw [hb, hr, hl]; simp) fun u v hu h => ?_
      obtain ⟨p', left', rfl, e', hr', _⟩ := inner u v hu h
      cases e'
      rw [List.append_cancel_right (hr.symm.trans hr')]
    · rw [e]
      refine Longest.missing fun u v hu h => ?_
      obtain ⟨_, _, _, e', _, hl⟩ := inner u v hu h
      cases e'
      exact none v hl

theorem longest_signed (bytes : List UInt8) : Longest Signed bytes (signed bytes) := by
  rcases take_cases (c := '-') (by decide) bytes with ⟨rest, e, hb⟩ | ⟨e, noMinus⟩
  · simp only [signed, e]
    refine (longest_plain rest).after ['-'] hb (fun _ => Signed.minus) ?_
    intro u v hu h
    obtain ⟨c, u, rfl⟩ := List.exists_cons_of_ne_nil hu.ne_nil
    rw [hb] at h
    obtain ⟨rfl, _⟩ := List.cons.inj h
    exact ⟨u, rfl, hu.of_minus⟩
  rcases take_cases (c := '(') (by decide) bytes with ⟨rest, e', hb⟩ | ⟨e', noParenthesis⟩
  · simp only [signed, e, e']
    exact longest_parenthesized hb
  · simp only [signed, e, e']
    refine (longest_plain bytes).after [] rfl (fun _ => Signed.bare) ?_
    intro u v hu h
    cases hu with
    | minus _ => exact absurd h (noMinus _)
    | parentheses _ => exact absurd h (noParenthesis _)
    | bare plain => exact ⟨u, rfl, plain⟩

/-! ## Symbols -/

/-- A dollar sign may follow any number of letters, none included. -/
theorem skipSymbol_eq (bytes : List UInt8) :
    skipSymbol bytes = (take '$' (bytes.dropWhile isLetter)).2 := by
  cases bytes with
  | nil => rfl
  | cons b bytes =>
    by_cases letter : isLetter b = true
    · have dollar : (b == '$'.toUInt8) = false := by
        rw [beq_toUInt8_eq (by decide)]
        rw [isLetter_eq] at letter
        simp only [beq_eq_false_iff_ne]
        intro e
        rw [e] at letter
        cases letter
      simp [skipSymbol, take, takeIf, dollar, letter]
    · by_cases dollar : (b == '$'.toUInt8) = true
      · simp [skipSymbol, take, takeIf, dollar, letter]
      · simp [skipSymbol, take, takeIf, dollar, letter]

/-- **The scan passes the longest symbol**, nothing if there is none. -/
theorem longest_symbol (bytes : List UInt8) :
    Longest (fun s => s = [] ∨ Symbol s) bytes (true, skipSymbol bytes) := by
  obtain ⟨hb, letters, stops⟩ := span_spec isLetter_eq bytes
  have dollar : ∀ v, Stops Char.isAlpha ('$' :: v) := fun v => stops_cons.2 rfl
  rw [skipSymbol_eq]
  rcases take_cases (c := '$') (by decide) (bytes.dropWhile isLetter) with
    ⟨rest, e, hr⟩ | ⟨e, none⟩
  · rw [e]
    refine Longest.found (symbol_or_nil_iff.2 ⟨_, letters, Or.inr rfl⟩) ?_ fun u v hu h => ?_
    · rw [hb, hr, List.append_assoc, List.singleton_append]
    obtain ⟨ls, letters', rfl | rfl⟩ := symbol_or_nil_iff.1 hu
    · have := length_le_of_stops letters' stops (hb.symm.trans h)
      rw [List.length_append]
      omega
    · rw [List.append_assoc] at h
      obtain ⟨same, _⟩ := eq_of_stops letters stops letters' (dollar v) (hb.symm.trans h)
      rw [same]
  · rw [e]
    refine Longest.found (symbol_or_nil_iff.2 ⟨_, letters, Or.inl rfl⟩) hb fun u v hu h => ?_
    obtain ⟨ls, letters', rfl | rfl⟩ := symbol_or_nil_iff.1 hu
    · exact length_le_of_stops letters' stops (hb.symm.trans h)
    · rw [List.append_assoc] at h
      obtain ⟨_, left⟩ := eq_of_stops letters stops letters' (dollar v) (hb.symm.trans h)
      exact absurd left (none v)

/-! ## Lines -/

/-- **The scan accepts exactly the bytes of a line.** -/
theorem acceptsBytes_iff (bytes : List UInt8) : acceptsBytes bytes = true ↔ Line (charsOf bytes) := by
  have symbol := longest_symbol bytes
  have signed := longest_signed (skipSymbol bytes)
  have all : acceptsBytes bytes = true ↔ Scan.signed (skipSymbol bytes) = (true, []) := by
    unfold acceptsBytes
    obtain ⟨matched, rest⟩ := Scan.signed (skipSymbol bytes)
    simp
  rw [all, signed.whole, line_iff]
  constructor
  · intro h
    cases symbol with
    | found hs hb _ => exact ⟨_, _, hb, hs, h⟩
  · rintro ⟨t, a, hb, ht, ha⟩
    obtain ⟨rest, e, hr⟩ := symbol.of_stops (fun _ => inside_of_symbol_or_nil) ht hb ha.stops
    cases e
    rwa [hr]

/-- The bytes of a text are accepted exactly if the text is a line: no byte of a character beyond
ASCII is taken for one of the grammar's characters. -/
theorem acceptsBytes_encode_iff (text : List Char) :
    acceptsBytes (Utf8.encode text) = true ↔ Line text := by
  rw [acceptsBytes_iff, Utf8.charsOf_encode_iff fun _ => Line.ascii]

end AmountReport.Amount.Scan
