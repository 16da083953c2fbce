import AmountReport.Pattern
import Mathlib.Data.List.Basic

/-!
# What patterns describe

The abbreviations in terms of the texts they describe, for patterns of one character (`OfClass`), and
what it is to search a text for a pattern between anchors (`Found`). A search looks at every place of
the text; an anchor holds at one place only, so a pattern between both anchors is found exactly if it
describes the whole text (`found_anchored_iff`).
-/

namespace AmountReport.Pattern

theorem matches_optional_iff {p : Pattern} {s : List Char} :
    Matches p.optional s ↔ Matches p s ∨ s = [] := by
  rw [optional, matches_alt_iff, matches_nothing_iff]

/-! ## Classes of characters -/

/-- The pattern describes single characters, those of a class. -/
def OfClass (p : Pattern) (q : Char → Bool) : Prop :=
  ∀ s, Matches p s ↔ ∃ c, s = [c] ∧ q c = true

theorem ofClass_oneOf (ranges : List (Char × Char)) : OfClass (.oneOf ranges) (inRanges ranges) := by
  intro s
  constructor
  · intro h
    cases h with
    | oneOf h => exact ⟨_, rfl, h⟩
  · rintro ⟨c, rfl, h⟩
    exact .oneOf h

theorem matches_char_iff {c : Char} {s : List Char} : Matches (.char c) s ↔ s = [c] := by
  have same (d : Char) : inRanges [(c, c)] d = true ↔ d = c := by
    simp only [inRanges, List.any_cons, List.any_nil, Bool.or_false, Bool.and_eq_true,
      decide_eq_true_eq]
    exact ⟨fun h => Char.le_antisymm h.2 h.1, fun h => h ▸ ⟨Char.le_refl d, Char.le_refl d⟩⟩
  rw [char, ofClass_oneOf [(c, c)] s]
  constructor
  · rintro ⟨d, rfl, h⟩
    rw [(same d).1 h]
  · rintro rfl
    exact ⟨c, rfl, (same c).2 rfl⟩

namespace OfClass

variable {p : Pattern} {q : Char → Bool} {s : List Char}

theorem matches_seq_iff {r : Pattern} (h : OfClass p q) :
    Matches (.seq p r) s ↔ ∃ c t, s = c :: t ∧ q c = true ∧ Matches r t := by
  rw [Pattern.matches_seq_iff]
  constructor
  · rintro ⟨t, u, rfl, ht, hu⟩
    obtain ⟨c, rfl, hc⟩ := (h t).1 ht
    exact ⟨c, u, rfl, hc, hu⟩
  · rintro ⟨c, t, rfl, hc, ht⟩
    exact ⟨[c], t, rfl, (h [c]).2 ⟨c, rfl, hc⟩, ht⟩

theorem matches_star_iff (h : OfClass p q) : Matches (.star p) s ↔ ∀ c ∈ s, q c = true := by
  induction s with
  | nil => exact ⟨fun _ => by simp, fun _ => .done⟩
  | cons c s ih =>
    rw [matches_star_cons_iff]
    constructor
    · rintro ⟨t, u, rfl, ht, hu⟩
      obtain ⟨d, e, hd⟩ := (h _).1 ht
      obtain ⟨rfl, rfl⟩ := List.cons_eq_cons.1 e
      rw [List.nil_append] at ih
      intro x hx
      rcases List.mem_cons.1 hx with rfl | hx
      · exact hd
      · exact ih.1 hu x hx
    · intro all
      refine ⟨[], s, rfl, (h [c]).2 ⟨c, rfl, all c (by simp)⟩, ?_⟩
      exact ih.2 fun x hx => all x (by simp [hx])

theorem matches_many_iff (h : OfClass p q) :
    Matches p.many s ↔ s ≠ [] ∧ ∀ c ∈ s, q c = true := by
  rw [many, h.matches_seq_iff]
  constructor
  · rintro ⟨c, t, rfl, hc, ht⟩
    rw [h.matches_star_iff] at ht
    exact ⟨by simp, by simpa using ⟨hc, ht⟩⟩
  · rintro ⟨ne, all⟩
    obtain ⟨c, t, rfl⟩ := List.exists_cons_of_ne_nil ne
    exact ⟨c, t, rfl, all c (by simp), h.matches_star_iff.2 fun x hx => all x (by simp [hx])⟩

theorem matches_times_iff (h : OfClass p q) (n : Nat) :
    Matches (p.times n) s ↔ s.length = n ∧ ∀ c ∈ s, q c = true := by
  induction n generalizing s with
  | zero =>
    rw [times, matches_nothing_iff]
    constructor
    · rintro rfl; simp
    · intro ⟨length, _⟩; exact List.eq_nil_of_length_eq_zero length
  | succ n ih =>
    rw [times, h.matches_seq_iff]
    constructor
    · rintro ⟨c, t, rfl, hc, ht⟩
      obtain ⟨length, all⟩ := ih.1 ht
      exact ⟨by simp [length], by simpa using ⟨hc, all⟩⟩
    · rintro ⟨length, all⟩
      cases s with
      | nil => cases length
      | cons c t =>
        refine ⟨c, t, rfl, all c (by simp), ih.2 ⟨by simpa using length, ?_⟩⟩
        exact fun x hx => all x (by simp [hx])

theorem matches_upTo_iff (h : OfClass p q) (n : Nat) :
    Matches (p.upTo n) s ↔ s.length ≤ n ∧ ∀ c ∈ s, q c = true := by
  induction n generalizing s with
  | zero =>
    rw [upTo, matches_nothing_iff]
    constructor
    · rintro rfl; simp
    · intro ⟨length, _⟩; exact List.eq_nil_of_length_eq_zero (by omega)
  | succ n ih =>
    rw [upTo, matches_optional_iff, h.matches_seq_iff]
    constructor
    · rintro (⟨c, t, rfl, hc, ht⟩ | rfl)
      · obtain ⟨length, all⟩ := ih.1 ht
        exact ⟨by simpa using length, by simpa using ⟨hc, all⟩⟩
      · simp
    · rintro ⟨length, all⟩
      cases s with
      | nil => exact Or.inr rfl
      | cons c t =>
        refine Or.inl ⟨c, t, rfl, all c (by simp), ih.2 ⟨by simpa using length, ?_⟩⟩
        exact fun x hx => all x (by simp [hx])

theorem matches_atLeast_iff (h : OfClass p q) (n : Nat) :
    Matches (p.atLeast n) s ↔ n ≤ s.length ∧ ∀ c ∈ s, q c = true := by
  rw [atLeast, Pattern.matches_seq_iff]
  constructor
  · rintro ⟨t, u, rfl, ht, hu⟩
    obtain ⟨length, all⟩ := (h.matches_times_iff n).1 ht
    rw [h.matches_star_iff] at hu
    refine ⟨by simp [length], fun c hc => ?_⟩
    rcases List.mem_append.1 hc with hc | hc
    · exact all c hc
    · exact hu c hc
  · rintro ⟨length, all⟩
    refine ⟨s.take n, s.drop n, (List.take_append_drop n s).symm, ?_, ?_⟩
    · refine (h.matches_times_iff n).2 ⟨List.length_take_of_le length, fun c hc => ?_⟩
      exact all c (List.mem_of_mem_take hc)
    · exact h.matches_star_iff.2 fun c hc => all c (List.mem_of_mem_drop hc)

theorem matches_optional_iff (h : OfClass p q) :
    Matches p.optional s ↔ s.length ≤ 1 ∧ ∀ c ∈ s, q c = true := by
  rw [← h.matches_upTo_iff 1, upTo, upTo, Pattern.matches_optional_iff,
    Pattern.matches_optional_iff, h s, h.matches_seq_iff]
  simp only [matches_nothing_iff]
  constructor
  · rintro (⟨c, rfl, hc⟩ | rfl)
    · exact Or.inl ⟨c, [], rfl, hc, rfl⟩
    · exact Or.inr rfl
  · rintro (⟨c, t, rfl, hc, rfl⟩ | rfl)
    · exact Or.inl ⟨c, rfl, hc⟩
    · exact Or.inr rfl

end OfClass

/-! ## Searching between anchors -/

/-- A part of what is searched for. -/
inductive Part
  /-- The beginning of the text, not of a line in it. -/
  | start
  /-- The end of the text, not of a line in it. -/
  | finish
  | body (p : Pattern)

/-- The parts, one after the other, describe what stands between `before` and `after`. -/
def Reads : List Part → (before text after : List Char) → Prop
  | [], _, text, _ => text = []
  | .start :: parts, before, text, after => before = [] ∧ Reads parts before text after
  | .finish :: parts, before, text, after => text ++ after = [] ∧ Reads parts before text after
  | .body p :: parts, before, text, after =>
    ∃ s t, text = s ++ t ∧ Matches p s ∧ Reads parts (before ++ s) t after

/-- Somewhere in the text stands what the parts describe. -/
def Found (parts : List Part) (text : List Char) : Prop :=
  ∃ before here after, text = before ++ (here ++ after) ∧ Reads parts before here after

theorem found_anchored_iff {p : Pattern} {text : List Char} :
    Found [.start, .body p, .finish] text ↔ Matches p text := by
  constructor
  · rintro ⟨before, here, after, rfl, rfl, s, t, rfl, h, rest, _⟩
    obtain ⟨rfl, rfl⟩ := List.append_eq_nil_iff.1 rest
    simpa using h
  · intro h
    exact ⟨[], text, [], by simp, rfl, text, [], by simp, h, rfl, rfl⟩

end AmountReport.Pattern
