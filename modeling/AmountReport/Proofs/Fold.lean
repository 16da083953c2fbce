import Mathlib.Data.List.Basic

/-!
# Folds that a fault may end

`List.foldlM` in `Except`: one step that goes well, one that does not, folds inside a fold, and what
each step keeps.
-/

namespace AmountReport

variable {ε α β γ : Type}

theorem foldlM_cons_ok {f : β → α → Except ε β} {s t : β} {a : α} {l : List α}
    (h : f s a = .ok t) : (a :: l).foldlM f s = l.foldlM f t := by
  rw [List.foldlM_cons, h]
  rfl

theorem foldlM_cons_error {f : β → α → Except ε β} {s : β} {a : α} {l : List α} {e : ε}
    (h : f s a = .error e) : (a :: l).foldlM f s = .error e := by
  rw [List.foldlM_cons, h]
  rfl

/-- Of two computations in a row that go well, both do. -/
theorem exists_of_bind_eq_ok {x : Except ε α} {f : α → Except ε β} {b : β} (h : x >>= f = .ok b) :
    ∃ a, x = .ok a ∧ f a = .ok b := by
  cases x with
  | error e => cases h
  | ok a => exact ⟨a, rfl, h⟩

/-- What each step keeps, the whole fold keeps. -/
theorem foldlM_keeps {R : β → β → Prop} {f : β → α → Except ε β} (refl : ∀ s, R s s)
    (trans : ∀ {s t u}, R s t → R t u → R s u) (step : ∀ {s a t}, f s a = .ok t → R s t) {l : List α}
    {s t : β} (h : l.foldlM f s = .ok t) : R s t := by
  induction l generalizing s with
  | nil => exact Except.ok.inj h ▸ refl s
  | cons a l ih =>
    rw [List.foldlM_cons] at h
    obtain ⟨u, here, later⟩ := exists_of_bind_eq_ok h
    exact trans (step here) (ih later)

end AmountReport
