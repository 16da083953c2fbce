import AmountReport.Stream.Sink

/-!
# Room in a sink

A write goes well exactly if its bytes fit. Writes one after the other are one write of all their
bytes, as to what is stored (`store_append`) and as to whether it fits (`fits_append`).
-/

namespace AmountReport.Sink

/-- There is room for the bytes. -/
def Fits (s : Sink) (bytes : List UInt8) : Prop := ∀ room ∈ s.room, bytes.length ≤ room

instance (s : Sink) (bytes : List UInt8) : Decidable (s.Fits bytes) :=
  match h : s.room with
  | none => isTrue fun _ e => by rw [h] at e; cases e
  | some room => decidable_of_iff (bytes.length ≤ room) (by simp [Fits, h])

variable {s : Sink} {a b : List UInt8}

theorem store_nil (s : Sink) : s.store [] = s := by
  cases s
  simp [store]

theorem store_append (s : Sink) (a b : List UInt8) : s.store (a ++ b) = (s.store a).store b := by
  cases s
  simp [store, List.reverseAux_eq, Nat.sub_sub, Function.comp_def]

theorem fits_of_room_eq_none (h : s.room = none) : s.Fits a := by
  intro room e
  rw [h] at e
  cases e

theorem fits_nil (s : Sink) : s.Fits [] := fun _ _ => Nat.zero_le _

theorem not_fits_iff : ¬ s.Fits a ↔ ∃ room, s.room = some room ∧ room < a.length := by
  simp [Fits]

theorem fits_append : s.Fits (a ++ b) ↔ s.Fits a ∧ (s.store a).Fits b := by
  cases h : s.room with
  | none => simp [Fits, store, h]
  | some room =>
    simp only [Fits, store, h, Option.mem_def, Option.map_some, Option.some.injEq, forall_eq',
      List.length_append]
    omega

theorem write_of_fits (h : s.Fits a) : s.write a = (none, s.store a) := by
  unfold write
  split
  · rfl
  · rename_i room e
    rw [if_pos (h room e)]

theorem write_of_not_fits {room : Nat} (h : s.room = some room) (small : room < a.length) :
    s.write a = (some .noRoom, s.store (a.take room)) := by
  simp [write, h, Nat.not_le.2 small]

end AmountReport.Sink
