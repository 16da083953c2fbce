/-!
# Patterns of characters

A pattern is a regular expression, `Matches` says which whole texts it describes, and `accepts`
decides that by taking the derivative of the pattern for one character after the other. A search
anchored at both ends of the text is a match of the whole text, so nothing else is needed here.

Main statement: `accepts` decides `Matches` (`accepts_iff`).
-/

namespace AmountReport

inductive Pattern
  /-- Describes no text. -/
  | never
  /-- Describes the empty text. -/
  | nothing
  /-- Describes one character of a union of ranges, ends included. -/
  | oneOf (ranges : List (Char × Char))
  | seq (first second : Pattern)
  | alt (left right : Pattern)
  | star (body : Pattern)
  deriving DecidableEq, Repr

namespace Pattern

/-- Whether a character is in a union of ranges. -/
def inRanges (ranges : List (Char × Char)) (c : Char) : Bool :=
  ranges.any fun (first, last) => first ≤ c && c ≤ last

/-- The texts that a pattern describes. -/
inductive Matches : Pattern → List Char → Prop
  | nothing : Matches .nothing []
  | oneOf {ranges c} : inRanges ranges c = true → Matches (.oneOf ranges) [c]
  | seq {p q s t} : Matches p s → Matches q t → Matches (.seq p q) (s ++ t)
  | left {p q s} : Matches p s → Matches (.alt p q) s
  | right {p q s} : Matches q s → Matches (.alt p q) s
  | done {p} : Matches (.star p) []
  | again {p s t} : Matches p s → Matches (.star p) t → Matches (.star p) (s ++ t)

/-! ## Usual abbreviations -/

/-- One given character. -/
def char (c : Char) : Pattern := .oneOf [(c, c)]

/-- One character of a range. -/
def range (first last : Char) : Pattern := .oneOf [(first, last)]

/-- The pattern or nothing. -/
def optional (p : Pattern) : Pattern := .alt p .nothing

/-- The pattern at least once. -/
def many (p : Pattern) : Pattern := .seq p (.star p)

/-- The pattern exactly `n` times. -/
def times (p : Pattern) : Nat → Pattern
  | 0 => .nothing
  | n + 1 => .seq p (p.times n)

/-- The pattern at most `n` times. -/
def upTo (p : Pattern) : Nat → Pattern
  | 0 => .nothing
  | n + 1 => optional (.seq p (p.upTo n))

/-- The pattern at least `n` times. -/
def atLeast (p : Pattern) (n : Nat) : Pattern := .seq (p.times n) (.star p)

/-! ## Matching by derivatives -/

/-- Whether the empty text is described. -/
def nullable : Pattern → Bool
  | .never => false
  | .nothing => true
  | .oneOf _ => false
  | .seq p q => p.nullable && q.nullable
  | .alt p q => p.nullable || q.nullable
  | .star _ => true

/-- A sequence, written shorter where one part describes no text or only the empty one. -/
def join : Pattern → Pattern → Pattern
  | .never, _ => .never
  | .nothing, q => q
  | p, q => .seq p q

/-- An alternative, written shorter where one side describes no text. -/
def union : Pattern → Pattern → Pattern
  | .never, q => q
  | p, .never => p
  | p, q => .alt p q

/-- Describes what may follow the character in the texts of the pattern. -/
def derivative (p : Pattern) (c : Char) : Pattern :=
  match p with
  | .never | .nothing => .never
  | .oneOf ranges => if inRanges ranges c then .nothing else .never
  | .seq p q =>
    if p.nullable then union (join (p.derivative c) q) (q.derivative c)
    else join (p.derivative c) q
  | .alt p q => union (p.derivative c) (q.derivative c)
  | .star p => join (p.derivative c) (.star p)

/-- Whether the pattern describes the whole text. -/
def accepts (p : Pattern) (s : List Char) : Bool :=
  (s.foldl derivative p).nullable

/-! ## The matcher decides the relation -/

theorem nullable_iff {p : Pattern} : p.nullable = true ↔ Matches p [] := by
  induction p with
  | never => exact ⟨nofun, nofun⟩
  | nothing => exact ⟨fun _ => .nothing, fun _ => rfl⟩
  | oneOf ranges => exact ⟨nofun, nofun⟩
  | seq p q ihp ihq =>
    simp only [nullable, Bool.and_eq_true, ihp, ihq]
    constructor
    · intro ⟨hp, hq⟩; exact Matches.seq hp hq
    · intro h
      generalize e : ([] : List Char) = s at h
      cases h with
      | seq hp hq =>
        obtain ⟨rfl, rfl⟩ := List.append_eq_nil_iff.1 e.symm
        exact ⟨hp, hq⟩
  | alt p q ihp ihq =>
    simp only [nullable, Bool.or_eq_true, ihp, ihq]
    constructor
    · rintro (h | h)
      · exact .left h
      · exact .right h
    · intro h
      cases h with
      | left h => exact Or.inl h
      | right h => exact Or.inr h
  | star p _ => exact ⟨fun _ => .done, fun _ => rfl⟩

theorem not_matches_never {s : List Char} : ¬ Matches .never s := nofun

theorem matches_nothing_iff {s : List Char} : Matches .nothing s ↔ s = [] :=
  ⟨fun h => by cases h; rfl, fun h => h ▸ .nothing⟩

theorem matches_seq_iff {p q : Pattern} {s : List Char} :
    Matches (.seq p q) s ↔ ∃ t u, s = t ++ u ∧ Matches p t ∧ Matches q u := by
  constructor
  · intro h
    cases h with
    | seq hp hq => exact ⟨_, _, rfl, hp, hq⟩
  · rintro ⟨t, u, rfl, hp, hq⟩
    exact .seq hp hq

theorem matches_alt_iff {p q : Pattern} {s : List Char} :
    Matches (.alt p q) s ↔ Matches p s ∨ Matches q s := by
  constructor
  · intro h
    cases h with
    | left h => exact Or.inl h
    | right h => exact Or.inr h
  · rintro (h | h)
    · exact .left h
    · exact .right h

theorem matches_join_iff {p q : Pattern} {s : List Char} :
    Matches (join p q) s ↔ Matches (.seq p q) s := by
  unfold join
  split
  · simp [matches_seq_iff, not_matches_never]
  · rw [matches_seq_iff]
    constructor
    · exact fun h => ⟨[], s, rfl, .nothing, h⟩
    · rintro ⟨t, u, rfl, ht, hu⟩
      rw [matches_nothing_iff.1 ht]; exact hu
  · rfl

theorem matches_union_iff {p q : Pattern} {s : List Char} :
    Matches (union p q) s ↔ Matches (.alt p q) s := by
  unfold union
  split
  · simp [matches_alt_iff, not_matches_never]
  · simp [matches_alt_iff, not_matches_never]
  · rfl

/-- A text of a starred pattern that begins with `c` begins with a non-empty text of its body. -/
theorem matches_star_cons_iff {p : Pattern} {c : Char} {s : List Char} :
    Matches (.star p) (c :: s) ↔
      ∃ t u, s = t ++ u ∧ Matches p (c :: t) ∧ Matches (.star p) u := by
  constructor
  · intro h
    generalize eq : Pattern.star p = q at h
    generalize es : c :: s = w at h
    induction h with
    | @again _ t u hp hs _ ih =>
      cases eq
      cases t with
      | nil => exact ih rfl es
      | cons d t =>
        obtain ⟨rfl, rfl⟩ := List.cons_eq_cons.1 es
        exact ⟨t, u, rfl, hp, hs⟩
    | done => cases es
    | _ => cases eq
  · rintro ⟨t, u, rfl, hp, hs⟩
    exact .again hp hs

theorem matches_derivative_iff {p : Pattern} {c : Char} {s : List Char} :
    Matches (p.derivative c) s ↔ Matches p (c :: s) := by
  induction p generalizing s with
  | never => exact ⟨nofun, nofun⟩
  | nothing => exact ⟨nofun, nofun⟩
  | oneOf ranges =>
    by_cases h : inRanges ranges c = true
    · simp only [derivative, h, if_true, matches_nothing_iff]
      constructor
      · rintro rfl; exact .oneOf h
      · intro hm; cases hm; rfl
    · simp only [derivative, h, Bool.false_eq_true, if_false]
      constructor
      · exact fun hm => absurd hm not_matches_never
      · intro hm; cases hm; contradiction
  | seq p q ihp ihq =>
    have first : Matches (.seq p q) (c :: s) ↔
        (∃ t u, s = t ++ u ∧ Matches p (c :: t) ∧ Matches q u) ∨
          (Matches p [] ∧ Matches q (c :: s)) := by
      rw [matches_seq_iff]
      constructor
      · rintro ⟨t, u, e, hp, hq⟩
        cases t with
        | nil => exact Or.inr ⟨hp, by rw [e]; exact hq⟩
        | cons d t =>
          obtain ⟨rfl, rfl⟩ := List.cons_eq_cons.1 e
          exact Or.inl ⟨t, u, rfl, hp, hq⟩
      · rintro (⟨t, u, rfl, hp, hq⟩ | ⟨hp, hq⟩)
        · exact ⟨c :: t, u, rfl, hp, hq⟩
        · exact ⟨[], c :: s, rfl, hp, hq⟩
    have step : Matches (join (p.derivative c) q) s ↔
        ∃ t u, s = t ++ u ∧ Matches p (c :: t) ∧ Matches q u := by
      simp only [matches_join_iff, matches_seq_iff, ihp]
    rw [first, ← step, ← nullable_iff]
    by_cases h : p.nullable = true
    · simp only [derivative, h, if_true, matches_union_iff, matches_alt_iff, ihq, true_and]
    · simp only [derivative, h, Bool.false_eq_true, if_false, false_and, or_false]
  | alt p q ihp ihq => simp only [derivative, matches_union_iff, matches_alt_iff, ihp, ihq]
  | star p ih =>
    simp only [derivative, matches_join_iff, matches_seq_iff, ih, matches_star_cons_iff]

/-- The matcher accepts exactly the texts that the pattern describes. -/
theorem accepts_iff {p : Pattern} {s : List Char} : p.accepts s = true ↔ Matches p s := by
  unfold accepts
  induction s generalizing p with
  | nil => exact nullable_iff
  | cons c s ih => rw [List.foldl_cons, ih, matches_derivative_iff]

end Pattern

end AmountReport
