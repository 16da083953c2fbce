import AmountReport.Text.Blank
import Mathlib.Data.List.DropRight

/-!
# What trimming leaves

Trimming leaves nothing exactly of texts that are blank throughout (`trimBlanks_eq_nil_iff`), and what
it leaves was there before, between blanks (`exists_eq_append_trimBlanks`). Blanks around a text do not
show in what is left (`trimBlanks_append`), and a text without blanks at its ends is left as it is.
-/

namespace AmountReport.Text

theorem dropTrailing_eq_rdropWhile (p : Char → Bool) (s : List Char) :
    dropTrailing p s = s.rdropWhile p := rfl

theorem trimBlanks_infix (s : List Char) : trimBlanks s <:+: s :=
  (List.rdropWhile_prefix isBlank _).isInfix.trans (List.dropWhile_suffix isBlank).isInfix

theorem trimBlanks_eq_nil_iff (s : List Char) : trimBlanks s = [] ↔ ∀ c ∈ s, isBlank c := by
  rw [trimBlanks, dropTrailing_eq_rdropWhile, List.rdropWhile_eq_nil_iff]
  constructor
  · intro h c hc
    rw [← List.takeWhile_append_dropWhile (p := isBlank) (l := s), List.mem_append] at hc
    rcases hc with hc | hc
    · exact List.mem_takeWhile_imp hc
    · exact h c hc
  · exact fun h c hc => h c ((List.dropWhile_suffix isBlank).mem hc)

/-- A text of which trimming leaves nothing is blank throughout. -/
theorem isEmpty_trim (s : String) : (trim s).isEmpty = s.toList.all isBlank := by
  rw [Bool.eq_iff_iff, String.isEmpty_iff, List.all_eq_true, ← trimBlanks_eq_nil_iff, trim]
  simp

/-- What trimming leaves does not begin with a blank. -/
theorem isBlank_head?_trimBlanks (s : List Char) :
    ∀ c ∈ (trimBlanks s).head?, isBlank c = false := by
  intro c hc
  obtain ⟨dropped, e⟩ := List.rdropWhile_prefix isBlank (s.dropWhile isBlank)
  have first : (s.dropWhile isBlank).head? = some c := by
    rw [← e, List.head?_append]
    exact Option.or_eq_some_iff.2 (.inl hc)
  have stop := List.head?_dropWhile_not isBlank s
  rwa [first] at stop

/-- What trimming leaves does not end with a blank. -/
theorem isBlank_getLast?_trimBlanks (s : List Char) :
    ∀ c ∈ (trimBlanks s).getLast?, isBlank c = false := by
  intro c hc
  rw [trimBlanks, dropTrailing_eq_rdropWhile] at hc
  by_cases none : List.rdropWhile isBlank (s.dropWhile isBlank) = []
  · rw [none] at hc
    cases hc
  · have last := List.rdropWhile_last_not isBlank _ none
    rw [List.getLast?_eq_some_getLast none] at hc
    cases hc
    simpa using last

/-- What trimming takes off are blanks before and behind what it leaves. -/
theorem exists_eq_append_trimBlanks (s : List Char) :
    ∃ before after, s = before ++ (trimBlanks s ++ after) ∧
      (∀ c ∈ before, isBlank c = true) ∧ ∀ c ∈ after, isBlank c = true := by
  refine ⟨s.takeWhile isBlank, (s.dropWhile isBlank).rtakeWhile isBlank, ?_,
    fun c => List.mem_takeWhile_imp, fun c => List.mem_rtakeWhile_imp⟩
  rw [trimBlanks, dropTrailing_eq_rdropWhile, List.rdropWhile_append_rtakeWhile,
    List.takeWhile_append_dropWhile]

/-- **Blanks around a text make no difference** to what trimming leaves. -/
theorem trimBlanks_append {before after : List Char} (s : List Char)
    (hb : ∀ c ∈ before, isBlank c = true) (ha : ∀ c ∈ after, isBlank c = true) :
    trimBlanks (before ++ (s ++ after)) = trimBlanks s := by
  unfold trimBlanks
  rw [List.dropWhile_append_of_pos hb, List.dropWhile_append]
  split
  · rename_i blank
    rw [List.isEmpty_iff.1 blank, List.dropWhile_eq_nil_iff.2 ha]
  · rw [dropTrailing, List.reverse_append, List.dropWhile_append_of_pos (by simpa using ha),
      dropTrailing]

/-- A text without blanks at its ends is left as it is. -/
theorem trimBlanks_eq_self {s : List Char} (first : ∀ c ∈ s.head?, isBlank c = false)
    (last : ∀ c ∈ s.getLast?, isBlank c = false) : trimBlanks s = s := by
  have begun : s.dropWhile isBlank = s := by
    cases s with
    | nil => rfl
    | cons c s => rw [List.dropWhile_cons_of_neg (by simp [first c rfl])]
  rw [trimBlanks, begun, dropTrailing_eq_rdropWhile, List.rdropWhile_eq_self_iff]
  intro some
  simp [last _ (List.getLast?_eq_some_getLast some)]

/-! ## Strings -/

theorem toList_trim (s : String) : (trim s).toList = trimBlanks s.toList := String.toList_ofList

theorem trim_append {before after : String} (s : String)
    (hb : ∀ c ∈ before.toList, isBlank c = true) (ha : ∀ c ∈ after.toList, isBlank c = true) :
    trim (before ++ s ++ after) = trim s := by
  rw [trim, String.toList_append, String.toList_append, List.append_assoc, trimBlanks_append _ hb ha,
    trim]

theorem trim_eq_self {s : String} (first : ∀ c ∈ s.toList.head?, isBlank c = false)
    (last : ∀ c ∈ s.toList.getLast?, isBlank c = false) : trim s = s := by
  rw [trim, trimBlanks_eq_self first last, String.ofList_toList]

theorem exists_eq_append_trim (s : String) :
    ∃ before after : String, s = before ++ trim s ++ after ∧
      (∀ c ∈ before.toList, isBlank c = true) ∧ ∀ c ∈ after.toList, isBlank c = true := by
  obtain ⟨before, after, e, hb, ha⟩ := exists_eq_append_trimBlanks s.toList
  refine ⟨String.ofList before, String.ofList after, ?_, ?_, ?_⟩
  · rw [← String.toList_inj, String.toList_append, String.toList_append, toList_trim,
      String.toList_ofList, String.toList_ofList, List.append_assoc]
    exact e
  · rwa [String.toList_ofList]
  · rwa [String.toList_ofList]

/-! ## Padding -/

end AmountReport.Text
