import AmountReport.Files.Tree
import AmountReport.Proofs.Text.Lines

/-!
# Following names

A path is followed name by name, and a name that is a name of its own, not a step in place or upwards,
leads to what stands there in the folder. The lemmas say so for each sort of node, and for a path that is
one name (`Tree.locate_of_isName`).
-/

namespace AmountReport.Files

/-- A name that an entry of a folder can have. -/
def IsName (name : String) : Prop :=
  name ≠ "" ∧ name ≠ "." ∧ name ≠ ".." ∧ '/' ∉ name.toList ∧ '\x00' ∉ name.toList ∧
    name.utf8ByteSize ≤ nameLimit

instance (name : String) : Decidable (IsName name) := inferInstanceAs (Decidable (_ ∧ _))

namespace Folder

variable {root : Folder} {links : Nat} {place : Place} {name : String} {rest : List String}

@[simp] theorem locate_nil : root.locate links place [] = .ok place := by rw [locate]

/-- **One name of a path** leads to what stands there. -/
theorem locate_cons_of_isName (h : IsName name) :
    root.locate links place (name :: rest) =
      match root.node? (name :: place) with
      | none => .error (.ofErrno 2)
      | some (.folder _) => root.locate links (name :: place) rest
      | some (.link target) =>
        match links with
        | 0 => .error (.ofErrno 40)
        | links + 1 =>
          root.locate links (if isAbsolute target then [] else place) (components target ++ rest)
      | some (.file _) | some .device =>
        if rest.isEmpty then .ok (name :: place) else .error (.ofErrno 20) := by
  obtain ⟨ne, here, above, -, -, short⟩ := h
  rewrite [locate, if_neg (not_or.2 ⟨ne, here⟩), if_neg above, if_neg (Nat.not_lt.2 short)]
  cases root.node? (name :: place) with
  | none => rfl
  | some node =>
    cases node with
    | link target => cases links <;> rfl
    | _ => rfl

theorem locate_of_none (h : IsName name) (found : root.node? (name :: place) = none) :
    root.locate links place (name :: rest) = .error (.ofErrno 2) := by
  rw [locate_cons_of_isName h, found]

theorem locate_of_folder {entries : Folder} (h : IsName name)
    (found : root.node? (name :: place) = some (.folder entries)) :
    root.locate links place (name :: rest) = root.locate links (name :: place) rest := by
  rw [locate_cons_of_isName h, found]

theorem locate_of_link {target : String} (h : IsName name)
    (found : root.node? (name :: place) = some (.link target)) :
    root.locate (links + 1) place (name :: rest) =
      root.locate links (if isAbsolute target then [] else place) (components target ++ rest) := by
  rw [locate_cons_of_isName h, found]

theorem locate_of_file {contents : List UInt8} (h : IsName name)
    (found : root.node? (name :: place) = some (.file contents)) :
    root.locate links place (name :: rest) =
      if rest.isEmpty then .ok (name :: place) else .error (.ofErrno 20) := by
  rw [locate_cons_of_isName h, found]

end Folder

theorem components_of_isName {path : String} (h : IsName path) : components path = [path] := by
  obtain ⟨-, -, -, noSlash, -, -⟩ := h
  rw [components, Text.splitAt_of_not_mem noSlash, List.map_singleton, String.ofList_toList]

namespace Tree

variable {t : Tree} {path : String} {place : Place}

theorem start_of_isName (h : IsName path) : t.start path = t.here := by
  obtain ⟨-, -, -, noSlash, -, -⟩ := h
  refine if_neg fun absolute => noSlash ?_
  exact List.mem_of_mem_head? (of_decide_eq_true absolute)

/-- A path that is one name is looked up in the working folder. -/
theorem locate_of_isName (h : IsName path) :
    t.locate path = t.root.locate linkLimit t.here [path] := by
  have ⟨ne, _, _, _, noNul, short⟩ := h
  rw [locate, if_neg (by simpa using noNul), if_neg (by simpa using ne),
    if_neg (Nat.not_le.2 (Nat.lt_of_le_of_lt short (by decide))), start_of_isName h,
    components_of_isName h]

theorem opener_of_locate_eq_error {fault : Fault} (located : t.locate path = .error fault) :
    t.opener path = .error fault := by
  rw [opener, located]
  rfl

theorem opener_of_file {contents : List UInt8} (located : t.locate path = .ok place)
    (found : t.root.node? place = some (.file contents)) :
    t.opener path = .ok (.file contents) := by
  rw [opener, located]
  simp only [bind, Except.bind, found]
  rfl

theorem opener_of_folder {entries : Folder} (located : t.locate path = .ok place)
    (found : t.root.node? place = some (.folder entries)) : t.opener path = .ok .other := by
  rw [opener, located]
  simp only [bind, Except.bind, found]
  rfl

end Tree

end AmountReport.Files
