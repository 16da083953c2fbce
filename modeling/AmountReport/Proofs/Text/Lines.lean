import AmountReport.Text.Lines
import Mathlib.Data.List.Basic

/-!
# The lines of a text and of its pieces

A text cut behind each line feed has the lines of its pieces, one piece after the other
(`lines_eq_flatMap_pieceLines`), so cutting at line feeds first and at carriage returns afterwards is
one scan for all line ends. The corners are where a piece ends: a carriage return there belongs to
the line feed behind it, or ends the last line of the text.
-/

namespace AmountReport.Text

/-! ## Pieces -/

section
variable {α : Type}

/-- Puts `run` in front of the first part, or makes it a part if there is none. -/
def glue (run : List α) : List (List α) → List (List α)
  | [] => if run = [] then [] else [run]
  | part :: more => (run ++ part) :: more

@[simp] theorem glue_nil (parts : List (List α)) : glue [] parts = parts := by
  cases parts <;> rfl

theorem glue_glue (run next : List α) (parts : List (List α)) :
    glue run (glue next parts) = glue (run ++ next) parts := by
  cases parts with
  | cons part more => simp [glue]
  | nil =>
    by_cases h : next = []
    · subst h; simp [glue]
    · simp [glue, h]

theorem glue_append (run : List α) {parts : List (List α)} (h : parts ≠ [])
    (more : List (List α)) : glue run (parts ++ more) = glue run parts ++ more := by
  obtain ⟨part, parts, rfl⟩ := List.exists_cons_of_ne_nil h
  rfl

theorem flatten_glue (run : List α) (parts : List (List α)) :
    (glue run parts).flatten = run ++ parts.flatten := by
  cases parts with
  | cons part more => simp [glue]
  | nil => by_cases h : run = [] <;> simp [glue, h]

variable [DecidableEq α] {d : α}

/-- Cuts behind each delimiter. What follows the last one is a piece unless it is empty. -/
def pieces (d : α) : List α → List (List α)
  | [] => []
  | a :: rest => if a = d then [a] :: pieces d rest else glue [a] (pieces d rest)

theorem pieces_cons_of_ne {a : α} (h : a ≠ d) (rest : List α) :
    pieces d (a :: rest) = glue [a] (pieces d rest) := if_neg h

/-- What has no delimiter goes to the first piece behind it. -/
theorem pieces_append {run : List α} (h : d ∉ run) (rest : List α) :
    pieces d (run ++ rest) = glue run (pieces d rest) := by
  induction run with
  | nil => simp
  | cons a run ih =>
    have ha : a ≠ d := fun e => h (e ▸ List.mem_cons_self)
    have hrun : d ∉ run := fun m => h (List.mem_cons_of_mem _ m)
    rw [List.cons_append, pieces_cons_of_ne ha, ih hrun, glue_glue, List.singleton_append]

/-- A text that is not empty has a first piece, which begins as it does. -/
theorem pieces_cons (a : α) (rest : List α) :
    ∃ piece more, pieces d (a :: rest) = (a :: piece) :: more := by
  rw [pieces]
  split
  · exact ⟨_, _, rfl⟩
  · cases pieces d rest with
    | nil => exact ⟨[], [], rfl⟩
    | cons piece more => exact ⟨piece, more, rfl⟩

/-- Behind a delimiter the cutting begins anew. -/
theorem pieces_append_of_ended {run : List α} (ended : run = [] ∨ run.getLast? = some d)
    (rest : List α) : pieces d (run ++ rest) = pieces d run ++ pieces d rest := by
  induction run with
  | nil => rfl
  | cons a run ih =>
    cases run with
    | nil =>
      obtain rfl : a = d := by simpa using ended
      simp [pieces]
    | cons b run =>
      have later : (b :: run).getLast? = some d := by simpa using ended
      obtain ⟨piece, more, first⟩ := pieces_cons (d := d) b run
      rw [List.cons_append, pieces, pieces, ih (.inr later)]
      split
      · rfl
      · rw [glue_append _ (by simp [first])]

/-- Each piece of a text that ends with the delimiter does. -/
theorem getLast?_of_mem_pieces {s : List α} (ended : s = [] ∨ s.getLast? = some d) :
    ∀ piece ∈ pieces d s, piece.getLast? = some d := by
  induction s with
  | nil => exact fun _ h => absurd h List.not_mem_nil
  | cons a s ih =>
    have whole : (a :: s).getLast? = some d := ended.resolve_left (List.cons_ne_nil _ _)
    cases s with
    | nil =>
      obtain rfl : a = d := by simpa using whole
      simp [pieces]
    | cons b s =>
      have later := ih (.inr (by simpa using whole))
      rw [pieces]
      split
      · rename_i ends
        exact List.forall_mem_cons.2 ⟨by rw [ends]; rfl, later⟩
      · obtain ⟨piece, more, cut⟩ := pieces_cons (d := d) b s
        rw [cut, List.forall_mem_cons] at later
        rw [cut]
        exact List.forall_mem_cons.2 ⟨later.1, later.2⟩

/-- Nothing is lost in cutting. -/
theorem flatten_pieces (l : List α) : (pieces d l).flatten = l := by
  induction l with
  | nil => rfl
  | cons a l ih =>
    rw [pieces]
    split
    · rw [List.flatten_cons, ih]
      rfl
    · rw [flatten_glue, ih]
      rfl

/-- The first pieces of a text are the pieces of a text. -/
theorem pieces_flatten_of_append {s : List α} {front back : List (List α)}
    (h : pieces d s = front ++ back) : pieces d front.flatten = front := by
  induction s generalizing front with
  | nil =>
    rw [(List.append_eq_nil_iff.1 h.symm).1]
    rfl
  | cons a s ih =>
    cases front with
    | nil => rfl
    | cons piece front =>
      rw [pieces, List.cons_append] at h
      split at h
      · rename_i ends
        rw [List.cons.injEq] at h
        rw [← h.1, List.flatten_cons, List.singleton_append, pieces, if_pos ends, ih h.2]
      · rename_i ne
        cases later : pieces d s with
        | nil =>
          rw [later, glue, if_neg (List.cons_ne_nil _ _), List.cons.injEq] at h
          rw [← h.1, (List.append_eq_nil_iff.1 h.2.symm).1]
          simp [pieces, ne, glue]
        | cons first more =>
          rw [later, glue, List.cons.injEq] at h
          have cut : pieces d (first ++ front.flatten) = first :: front :=
            @ih (first :: front) (by rw [later, h.2]; rfl)
          rw [← h.1, List.flatten_cons, List.append_assoc, List.singleton_append,
            pieces_cons_of_ne ne, cut]
          rfl

/-- `splitAt` is the library's `List.splitOn`. -/
theorem splitAt_eq_splitOn (d : α) (s : List α) : splitAt d s = s.splitOn d := by
  induction s with
  | nil => rfl
  | cons a s ih =>
    rw [List.splitOn, List.splitOnP_cons_eq_if_modifyHead, ← List.splitOn, ← ih]
    have parts : splitAt d s ≠ [] := by
      rw [ih]
      exact List.splitOn_ne_nil d s
    obtain ⟨part, more, cut⟩ := List.exists_cons_of_ne_nil parts
    unfold splitAt at cut ⊢
    by_cases h : a = d <;> simp [h, cut]

theorem splitAt_ne_nil (s : List α) : splitAt d s ≠ [] := by
  rw [splitAt_eq_splitOn]
  exact List.splitOn_ne_nil d s

theorem splitAt_cons (a : α) (s : List α) :
    splitAt d (a :: s) = if a = d then [] :: splitAt d s else glue [a] (splitAt d s) := by
  obtain ⟨part, more, cut⟩ := List.exists_cons_of_ne_nil (splitAt_ne_nil (d := d) s)
  rw [splitAt_eq_splitOn] at cut
  simp only [splitAt_eq_splitOn, List.splitOn, List.splitOnP_cons_eq_if_modifyHead, beq_iff_eq]
  rw [← List.splitOn, cut]
  rfl

/-- What has no separator is one part. -/
theorem splitAt_of_not_mem {s : List α} (h : d ∉ s) : splitAt d s = [s] := by
  rw [splitAt_eq_splitOn, List.splitOn, List.splitOnP_eq_singleton]
  intro a ha
  simpa using fun e : a = d => h (e ▸ ha)

end

/-! ## The lines of a piece -/

section
variable {c : Char} {s : List Char}

theorem dropFinal_cons (c : Char) {a : Char} (h : s ≠ []) :
    dropFinal c (a :: s) = a :: dropFinal c s := by
  obtain ⟨b, s, rfl⟩ := List.exists_cons_of_ne_nil h
  unfold dropFinal
  rw [List.getLast?_cons_cons]
  split <;> rfl

theorem dropFinal_ne_nil {c : Char} (h : s ≠ []) (h' : s ≠ [c]) : dropFinal c s ≠ [] := by
  obtain ⟨a, s, rfl⟩ := List.exists_cons_of_ne_nil h
  by_cases hs : s = []
  · subst hs
    have ha : a ≠ c := fun e => h' (by rw [e])
    simp [dropFinal, ha]
  · rw [dropFinal_cons c hs]
    exact List.cons_ne_nil _ _

/-- A character that ends no line goes to the first line behind it. -/
theorem pieceLines_cons (hn : c ≠ '\n') (hr : c ≠ '\r') :
    pieceLines (c :: s) = glue [c] (pieceLines s) := by
  by_cases hs : s = []
  · subst hs
    simp [pieceLines, dropFinal, hn, hr, splitAt, glue]
  by_cases alone : s = ['\n']
  · subst alone
    simp [pieceLines, dropFinal, hr, splitAt, glue]
  · unfold pieceLines
    rw [dropFinal_cons _ hs, dropFinal_cons _ (dropFinal_ne_nil hs alone), splitAt_cons, if_neg hr]

/-- A carriage return ends a line unless the piece ends there. -/
theorem pieceLines_cons_carriageReturn (hs : s ≠ []) (alone : s ≠ ['\n']) :
    pieceLines ('\r' :: s) = [] :: pieceLines s := by
  unfold pieceLines
  rw [dropFinal_cons _ hs, dropFinal_cons _ (dropFinal_ne_nil hs alone), splitAt_cons, if_pos rfl]

end

theorem pieceLines_ne_nil (s : List Char) : pieceLines s ≠ [] := splitAt_ne_nil _

/-! ## The lines of a text -/

theorem lines_cons {c : Char} (hn : c ≠ '\n') (hr : c ≠ '\r') (s : List Char) :
    lines (c :: s) = glue [c] (lines s) := by
  rw [lines]
  · rw [if_neg (by simp [hn, hr])]
    cases lines s <;> rfl
  · exact fun _ e => absurd e hr

theorem lines_cons_lineFeed (s : List Char) : lines ('\n' :: s) = [] :: lines s := by
  rw [lines]
  · rfl
  · exact fun _ e => absurd e (by decide)

theorem lines_cons_carriageReturn {c : Char} (hc : c ≠ '\n') (s : List Char) :
    lines ('\r' :: c :: s) = [] :: lines (c :: s) := by
  rw [lines]
  · rfl
  · exact fun _ _ e => hc (List.cons.inj e).1

/-- **The lines of a text are those of its pieces.** -/
theorem lines_eq_flatMap_pieceLines (s : List Char) :
    lines s = (pieces '\n' s).flatMap pieceLines := by
  induction s with
  | nil => rfl
  | cons c s ih =>
    by_cases hn : c = '\n'
    · subst hn
      rw [lines_cons_lineFeed, ih]
      rfl
    by_cases hr : c = '\r'
    · subst hr
      cases s with
      | nil => rfl
      | cons b s =>
        by_cases hb : b = '\n'
        · -- the two are one line end, as the line feed is alone
          subst hb
          rw [lines_cons_lineFeed] at ih
          rw [lines, List.cons.inj ih |>.2]
          rfl
        · obtain ⟨piece, more, e⟩ := pieces_cons (d := '\n') b s
          rw [lines_cons_carriageReturn hb, ih, pieces_cons_of_ne hn, e, glue, List.flatMap_cons,
            List.flatMap_cons, List.singleton_append,
            pieceLines_cons_carriageReturn (List.cons_ne_nil _ _) (by simp [hb])]
          rfl
    · rw [lines_cons hn hr, ih, pieces_cons_of_ne hn]
      cases pieces '\n' s with
      | nil =>
        rw [List.flatMap_nil, glue, if_neg (List.cons_ne_nil _ _), List.flatMap_singleton,
          pieceLines_cons hn hr]
        rfl
      | cons piece more =>
        rw [glue, List.flatMap_cons, List.flatMap_cons, glue_append _ (pieceLines_ne_nil _),
          List.singleton_append, pieceLines_cons hn hr]

/-- A text has a line unless it is empty. -/
theorem lines_ne_nil {s : List Char} (h : s ≠ []) : lines s ≠ [] := by
  obtain ⟨c, s, rfl⟩ := List.exists_cons_of_ne_nil h
  obtain ⟨piece, more, cut⟩ := pieces_cons (d := '\n') c s
  rw [lines_eq_flatMap_pieceLines, cut, List.flatMap_cons]
  exact List.append_ne_nil_of_left_ne_nil (pieceLines_ne_nil _) _

/-- A text has no more lines than characters. -/
theorem length_lines_le (s : List Char) : (lines s).length ≤ s.length := by
  fun_induction lines s with
  | case1 => exact Nat.le_refl 0
  | case2 rest ih => exact Nat.succ_le_succ (Nat.le_succ_of_le ih)
  | case3 c rest alone ended ih => exact Nat.succ_le_succ ih
  | case4 c rest alone inside none ih => exact Nat.succ_le_succ (Nat.zero_le _)
  | case5 c rest alone inside line more first ih =>
    rw [first] at ih
    exact Nat.le_succ_of_le ih

/-- If a carriage return ends a line and the lines behind it are those of `t`, what is before it has its
lines as if the text stopped there. -/
theorem lines_append_cons_carriageReturn {s t : List Char} (h : lines ('\r' :: s) = [] :: lines t)
    (front : List Char) : lines (front ++ '\r' :: s) = lines (front ++ ['\r']) ++ lines t := by
  fun_induction lines front with
  | case1 => exact h
  | case2 front ih =>
    show lines ('\r' :: '\n' :: (front ++ '\r' :: s)) =
      lines ('\r' :: '\n' :: (front ++ ['\r'])) ++ lines t
    rw [lines, lines, ih]
    rfl
  | case3 c front alone ended ih =>
    rcases ended with rfl | rfl
    · rw [List.cons_append, List.cons_append, lines_cons_lineFeed, lines_cons_lineFeed, ih]
      rfl
    · -- the character behind is no line feed, also if it is the one that follows `front`
      have next : ∀ more, ∃ c rest, front ++ '\r' :: more = c :: rest ∧ c ≠ '\n' := by
        intro more
        cases front with
        | nil => exact ⟨_, _, rfl, by decide⟩
        | cons b front => exact ⟨b, _, rfl, fun e => alone front rfl (by rw [e])⟩
      obtain ⟨b, rest, e, hb⟩ := next s
      obtain ⟨b', rest', e', hb'⟩ := next []
      rw [List.cons_append, List.cons_append, e, e', lines_cons_carriageReturn hb,
        lines_cons_carriageReturn hb', ← e, ← e', ih]
      rfl
  | case4 c front _ inside _ ih =>
    obtain ⟨hn, hr⟩ := not_or.1 inside
    rw [List.cons_append, List.cons_append, lines_cons hn hr, lines_cons hn hr, ih,
      glue_append _ (lines_ne_nil (by simp))]
  | case5 c front _ inside _ _ _ ih =>
    obtain ⟨hn, hr⟩ := not_or.1 inside
    rw [List.cons_append, List.cons_append, lines_cons hn hr, lines_cons hn hr, ih,
      glue_append _ (lines_ne_nil (by simp))]

/-- Behind a carriage return the lines begin anew, unless a line feed follows. -/
theorem lines_append_of_carriageReturn {s t : List Char} (ended : s.getLast? = some '\r')
    (alone : t.head? ≠ some '\n') : lines (s ++ t) = lines s ++ lines t := by
  obtain ⟨front, rfl⟩ := List.getLast?_eq_some_iff.1 ended
  rw [List.append_assoc, List.singleton_append]
  refine lines_append_cons_carriageReturn ?_ front
  cases t with
  | nil => rfl
  | cons c t => exact lines_cons_carriageReturn (fun e => alone (by rw [e]; rfl)) t

/-- A line feed behind a carriage return adds no line. -/
theorem lines_append_lineFeed_cons {s : List Char} (ended : s.getLast? = some '\r') (t : List Char) :
    lines (s ++ '\n' :: t) = lines s ++ lines t := by
  obtain ⟨front, rfl⟩ := List.getLast?_eq_some_iff.1 ended
  rw [List.append_assoc, List.singleton_append]
  exact lines_append_cons_carriageReturn (by rw [lines]) front

/-- No line has a line end inside. -/
theorem not_lineEnd_of_mem_lines {s line : List Char} (h : line ∈ lines s) :
    ∀ c ∈ line, c ≠ '\n' ∧ c ≠ '\r' := by
  fun_induction lines s generalizing line with
  | case1 => exact absurd h List.not_mem_nil
  | case2 s ih =>
    rcases List.mem_cons.1 h with rfl | h
    · simp
    · exact ih h
  | case3 c s alone ended ih =>
    rcases List.mem_cons.1 h with rfl | h
    · simp
    · exact ih h
  | case4 c s alone inside last ih =>
    intro b hb
    rw [List.mem_singleton.1 h] at hb
    rw [List.mem_singleton.1 hb]
    exact not_or.1 inside
  | case5 c s alone inside first more next ih =>
    have hc := not_or.1 inside
    rw [next] at ih
    rcases List.mem_cons.1 h with rfl | h
    · intro b hb
      rcases List.mem_cons.1 hb with rfl | hb
      · exact hc
      · exact ih List.mem_cons_self b hb
    · exact ih (List.mem_cons_of_mem _ h)

/-- A text in which a line feed can only be the last character is its only piece. -/
theorem pieces_eq_singleton {α : Type} [DecidableEq α] {d : α} {s : List α} (ne : s ≠ [])
    (h : d ∉ s.dropLast) : pieces d s = [s] := by
  have split := List.dropLast_concat_getLast ne
  rw [← split, pieces_append h, pieces]
  split_ifs <;> rfl

/-- The lines of a piece are its lines as a text, unless it is empty. -/
theorem pieceLines_eq_lines {s : List Char} (ne : s ≠ []) (h : '\n' ∉ s.dropLast) :
    pieceLines s = lines s := by
  rw [lines_eq_flatMap_pieceLines, pieces_eq_singleton ne h, List.flatMap_singleton]

/-- No line of a piece has a line end inside. -/
theorem not_lineEnd_of_mem_pieceLines {s line : List Char} (h : '\n' ∉ s.dropLast)
    (hl : line ∈ pieceLines s) : ∀ c ∈ line, c ≠ '\n' ∧ c ≠ '\r' := by
  by_cases none : s = []
  · subst none
    have empty : line = [] := List.mem_singleton.1 hl
    simp [empty]
  · rw [pieceLines_eq_lines none h] at hl
    exact not_lineEnd_of_mem_lines hl

end AmountReport.Text
