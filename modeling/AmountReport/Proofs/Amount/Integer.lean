import AmountReport.Proofs.Amount.Parts

/-!
# Where the scan of an integer ends

Behind one leading digit or two, the rule for integers takes groups round by round. A round that takes a
group uses up four bytes, so the rounds come to an end, and they do so in one way
(`exists_forall_rounds_iff`). The last round gives back all that it has taken, and no longer integer begins
with that: in an integer, three digits stand behind each point (`Integer.digits_behind_point`).

Main statement: wherever the rule for integers is taken up, it takes the longest integer that begins there,
or nothing if none does (`integer_takes_longest`).
-/

namespace AmountReport.Amount

/-! ## Points -/

section
variable {s t w : List Char}

/-- In groups, three digits stand behind each point. -/
theorem Groups.digits_behind_point (h : Groups s) (e : s = t ++ '.' :: w) :
    ∃ x y z v, w = x :: y :: z :: v ∧ Digits [x, y, z] := by
  induction h generalizing t with
  | nil => simp at e
  | @cons x y z rest digits _ ih =>
    cases t with
    | nil => exact ⟨x, y, z, rest, (List.cons.inj e).2.symm, digits⟩
    | cons c t =>
      -- the point is none of the three digits, so it stands in the groups behind them
      have behind : t ++ '.' :: w = [x, y, z] ++ rest := (List.cons.inj e).2.symm
      obtain ⟨t, -, later⟩ := exists_append_of_stops digits (stops_cons.2 rfl) behind
      exact ih later

/-- An integer is digits, then groups. -/
theorem Integer.exists_groups (h : Integer s) : ∃ ds gs, s = ds ++ gs ∧ Digits ds ∧ Groups gs := by
  cases h with
  | zero => exact ⟨['0'], [], rfl, by decide, .nil⟩
  | @short d ds lead digits _ =>
    have all : Digits (d :: ds) := List.forall_mem_cons.2 ⟨isDigit_of_isLeadDigit lead, digits⟩
    exact ⟨d :: ds, [], (List.append_nil _).symm, all, .nil⟩
  | @grouped d ds gs lead digits _ groups _ =>
    have all : Digits (d :: ds) := List.forall_mem_cons.2 ⟨isDigit_of_isLeadDigit lead, digits⟩
    exact ⟨d :: ds, gs, rfl, all, groups⟩

/-- **In an integer, three digits stand behind each point.** -/
theorem Integer.digits_behind_point (h : Integer (t ++ '.' :: w)) :
    ∃ x y z v, w = x :: y :: z :: v ∧ Digits [x, y, z] := by
  obtain ⟨ds, gs, e, digits, groups⟩ := h.exists_groups
  obtain ⟨t, -, later⟩ := exists_append_of_stops digits (stops_cons.2 rfl) e
  exact groups.digits_behind_point later

end

namespace Scan

open Utf8 (charsOf charsOf_append)

/-! ## Prefixes -/

section
variable {L : List Char → Prop} {bytes rest : List UInt8} {answer : Bool × List UInt8}

/-- Some characters that begin a text are the first as many bytes. -/
theorem charsOf_take_of_charsOf {u v : List Char} (h : charsOf bytes = u ++ v) :
    charsOf (bytes.take u.length) = u := by
  rw [charsOf, List.map_take, ← charsOf, h, List.take_left]

/-- A rule that takes the longest text fails exactly where no text of the language begins. -/
theorem Longest.fst_eq_false_iff (h : Longest L bytes answer) :
    answer.1 = false ↔ ∀ t, t <+: bytes → ¬ L (charsOf t) := by
  cases h with
  | @found t rest ht e _ =>
    refine ⟨nofun, fun none => absurd ?_ (none (bytes.take t.length) (List.take_prefix _ _))⟩
    rwa [charsOf_take_of_charsOf e]
  | missing none =>
    refine ⟨fun _ => ?_, fun _ => rfl⟩
    rintro t ⟨v, rfl⟩ ht
    exact none _ _ ht (charsOf_append t v)

/-- What it takes is the longest prefix in the language. -/
theorem Longest.exists_longest (h : Longest L bytes (true, rest)) :
    ∃ t, t <+: bytes ∧ L (charsOf t) ∧ (∀ u, u <+: bytes → L (charsOf u) → u.length ≤ t.length) ∧
      rest = bytes.drop t.length := by
  cases h with
  | @found t _ ht e longest =>
    have front : charsOf (bytes.take t.length) = t := charsOf_take_of_charsOf e
    have length : (bytes.take t.length).length = t.length := by
      have same := congrArg List.length front
      rwa [charsOf, List.length_map] at same
    refine ⟨bytes.take t.length, List.take_prefix _ _, by rwa [front], ?_, ?_⟩
    · rintro u ⟨v, rfl⟩ hu
      have shorter := longest (charsOf u) (charsOf v) hu (charsOf_append u v)
      rwa [charsOf, List.length_map, ← length] at shorter
    · rw [length]
      exact eq_drop_of_charsOf e

end

/-! ## Rounds -/

/-- The loop over groups, begun at `bytes`, takes a group in each of `n` rounds, and in the round behind them
it finds none and ends at `rest`. -/
inductive Rounds : Nat → List UInt8 → List UInt8 → Prop
  | stop {bytes rest} : group bytes = (false, rest) → Rounds 0 bytes rest
  | round {n bytes next rest} : group bytes = (true, next) → Rounds n next rest →
      Rounds (n + 1) bytes rest

section
variable {n : Nat} {bytes rest : List UInt8}

/-- A round without a group gives back all that it has taken. -/
theorem eq_of_group_false (h : group bytes = (false, rest)) : rest = bytes := by
  rcases group_cases bytes with ⟨_, _, _, _, e, _⟩ | ⟨e, _⟩
  · rw [h] at e
    cases e
  · rw [h] at e
    exact congrArg Prod.snd e

/-- A round with a group uses up four bytes. -/
theorem length_of_group_true (h : group bytes = (true, rest)) : bytes.length = rest.length + 4 := by
  rcases group_cases bytes with ⟨x, y, z, left, e, -, hb⟩ | ⟨e, _⟩
  · rw [h] at e
    cases e
    simpa [charsOf] using congrArg List.length hb
  · rw [h] at e
    cases e

theorem groups_of_group_false (h : group bytes = (false, rest)) : groups bytes = rest := by
  rw [groups]
  split
  · rename_i found
    rw [h] at found
    cases found
  · exact (eq_of_group_false h).symm

theorem groups_of_group_true (h : group bytes = (true, rest)) : groups bytes = groups rest := by
  rw [groups]
  split
  · rename_i found
    rw [h] at found
    cases found
    rfl
  · rename_i missing
    rw [h] at missing
    cases missing

theorem Rounds.length_eq (h : Rounds n bytes rest) : bytes.length = rest.length + 4 * n := by
  induction h with
  | stop missing => rw [eq_of_group_false missing, Nat.mul_zero, Nat.add_zero]
  | round found _ ih =>
    have := length_of_group_true found
    omega

theorem Rounds.eq_groups (h : Rounds n bytes rest) : rest = groups bytes := by
  induction h with
  | stop missing => exact (groups_of_group_false missing).symm
  | round found _ ih => rw [groups_of_group_true found, ih]

theorem exists_rounds (bytes : List UInt8) : ∃ n, Rounds n bytes (groups bytes) := by
  fun_induction groups bytes with
  | case1 bytes next found ih =>
    obtain ⟨n, later⟩ := ih
    exact ⟨n + 1, .round found later⟩
  | case2 bytes rest missing =>
    rw [eq_of_group_false missing] at missing
    exact ⟨0, .stop missing⟩

/-- **The loop over groups ends, in one way**, from wherever it is begun. -/
theorem exists_forall_rounds_iff (bytes : List UInt8) :
    ∃ n, bytes.length = (groups bytes).length + 4 * n ∧
      ∀ m rest, Rounds m bytes rest ↔ m = n ∧ rest = groups bytes := by
  obtain ⟨n, ends⟩ := exists_rounds bytes
  refine ⟨n, ends.length_eq, fun m rest => ⟨fun h => ?_, ?_⟩⟩
  · have same := h.eq_groups
    have first := h.length_eq
    have second := ends.length_eq
    rw [same] at first
    exact ⟨by omega, same⟩
  · rintro ⟨rfl, rfl⟩
    exact ends

end

/-! ## Integers -/

section
variable {t w : List UInt8}

/-- Where no integer begins, nothing is taken. -/
theorem integer_snd_of_false {bytes : List UInt8} (h : (integer bytes).1 = false) :
    (integer bytes).2 = bytes := by
  revert h
  unfold integer
  rcases take_cases (c := '0') (by decide) bytes with ⟨_, e, _⟩ | ⟨e, _⟩
  · rw [e]
    exact nofun
  rw [e]
  rcases takeIf_cases isLeadDigit_eq bytes with ⟨_, _, e, _⟩ | ⟨e, _⟩
  · rw [e]
    dsimp only
    split <;> exact nofun
  · rw [e]
    exact fun _ => rfl

/-- **A group that is cut short is given back whole**, the point with the digits behind it. -/
theorem integer_of_cut_group (before : Integer (charsOf t)) (short : (w.takeWhile isDigit).length < 3) :
    integer (t ++ '.'.toUInt8 :: w) = (true, '.'.toUInt8 :: w) := by
  have split : charsOf (t ++ '.'.toUInt8 :: w) = charsOf t ++ '.' :: charsOf w := charsOf_append _ _
  have taken := longest_integer (t ++ '.'.toUInt8 :: w)
  generalize integer (t ++ '.'.toUInt8 :: w) = answer at taken
  cases taken with
  | missing none => exact absurd split (none _ _ before)
  | @found t' rest whole e longest =>
    rw [split] at e
    have reach : charsOf t <+: t' :=
      List.prefix_of_prefix_length_le (e ▸ List.prefix_append _ _) (List.prefix_append _ _)
        (longest _ _ before split)
    obtain ⟨more, rfl⟩ := reach
    rw [List.append_assoc] at e
    have behind := List.append_cancel_left e
    cases more with
    | nil =>
      have same : rest = (t ++ '.'.toUInt8 :: w).drop (charsOf t).length :=
        eq_drop_of_charsOf (split.trans (by rw [behind]; rfl))
      rw [same, charsOf, List.length_map, List.drop_left]
    | cons c more =>
      -- a longer integer would have three digits behind the point
      obtain ⟨rfl, left⟩ := List.cons.inj behind
      obtain ⟨x, y, z, v, rfl, digits⟩ := whole.digits_behind_point
      obtain ⟨cut, -, stops⟩ := span_spec isDigit_eq w
      have three := length_le_of_stops digits stops (cut.symm.trans left)
      simp only [charsOf, List.length_map, List.length_cons, List.length_nil] at three
      omega

end

/-- **The rule for integers takes the longest integer that begins where it is taken up.** It fails exactly
if none begins there, and then it stands where it stood; else it stands behind the longest one, and not
beyond the end. A point with fewer than three digits behind it is left, with these digits. The loop over
groups comes to an end wherever it is begun: it goes through a certain number of rounds with four bytes
each, and through no other number. -/
theorem integer_takes_longest (bytes : List UInt8) {place : Nat} (within : place ≤ bytes.length) :
    let left := bytes.drop place
    ((integer left).1 = false ↔ ∀ t, t <+: left → ¬ Integer (charsOf t)) ∧
      ((integer left).1 = false → (integer left).2 = left) ∧
      ((integer left).1 = true → ∃ t, t <+: left ∧ Integer (charsOf t) ∧
        (∀ u, u <+: left → Integer (charsOf u) → u.length ≤ t.length) ∧
        place + t.length ≤ bytes.length ∧ (integer left).2 = bytes.drop (place + t.length)) ∧
      (∀ t w, left = t ++ '.'.toUInt8 :: w → Integer (charsOf t) → (w.takeWhile isDigit).length < 3 →
        integer left = (true, bytes.drop (place + t.length))) ∧
      ∀ start, ∃ n, start.length = (groups start).length + 4 * n ∧
        ∀ m rest, Rounds m start rest ↔ m = n ∧ rest = groups start := by
  intro left
  have taken := longest_integer left
  refine ⟨taken.fst_eq_false_iff, integer_snd_of_false, ?_, ?_, exists_forall_rounds_iff⟩
  · intro found
    have answer : integer left = (true, (integer left).2) := by rw [← found]
    rw [answer] at taken
    obtain ⟨t, front, whole, longest, rest⟩ := taken.exists_longest
    have short := front.length_le
    rw [List.length_drop] at short
    exact ⟨t, front, whole, longest, by omega, by rw [rest, List.drop_drop]⟩
  · intro t w cut before short
    rw [← List.drop_drop, show bytes.drop place = left from rfl, cut, List.drop_left]
    exact integer_of_cut_group before short

/-- Two digits are too few for a second group, and there the integer ends, although the text goes on. -/
theorem integer_takes_longest_before_cut_group :
    let bytes := Utf8.encode "R$12.345.67,8".toList
    2 ≤ bytes.length ∧ integer (bytes.drop 2) = (true, bytes.drop 8) ∧
      Integer "12.345".toList ∧
      ∀ u, u <+: bytes.drop 2 → Integer (charsOf u) → u.length ≤ 6 := by
  intro bytes
  have within : 2 ≤ bytes.length := by decide
  have groups : Groups ['.', '3', '4', '5'] := Groups.cons (by decide) Groups.nil
  have whole : Integer ('1' :: (['2'] ++ ['.', '3', '4', '5'])) :=
    Integer.grouped (by decide) (by decide) (by decide) groups (by decide)
  obtain ⟨-, -, found, givenBack, -⟩ := integer_takes_longest bytes within
  have answer : integer (bytes.drop 2) = (true, bytes.drop 8) :=
    givenBack (Utf8.encode "12.345".toList) (Utf8.encode "67,8".toList) (by decide) whole (by decide)
  refine ⟨within, answer, whole, ?_⟩
  rw [answer] at found
  obtain ⟨t, -, -, longest, -, rest⟩ := found rfl
  have length := congrArg List.length rest
  simp only [List.length_drop] at length
  have bound : bytes.length = 13 := by decide
  have : t.length = 6 := by omega
  rwa [this] at longest

end Scan

end AmountReport.Amount
