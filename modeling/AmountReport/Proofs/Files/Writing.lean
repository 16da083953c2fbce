import AmountReport.Files.Writing
import AmountReport.Proofs.Files.Tree
import AmountReport.Proofs.Fold
import AmountReport.Proofs.Report.FileRun

/-!
# What writing keeps

Folders, links and files are made at the end of a path. What stood in the tree before stands there
afterwards: a folder is still a folder, with what it held, and everything else is as it was, except for
the one file that is written (`writeFile_keeps`, `makeFolder_keeps`, `makeLink_keeps`). A file that was
written under a name of the working folder opens to what was written (`opener_writeFile`), so a run on
it is the run on that (`runFile_writeFile`).

A place counts its names from the last one up and a node is put at the end of names that count down, so
nodes are looked up both ways (`Folder.node?_eq`).
-/

namespace AmountReport.Files

/-! ## Looking up from the top down -/

/-- What stands at the end of names below a node. -/
def Node.at? : Node → List String → Option Node
  | node, [] => some node
  | .folder entries, name :: rest => (entries.lookup name).bind (·.at? rest)
  | _, _ :: _ => none

theorem Node.at?_append (node : Node) (above below : List String) :
    node.at? (above ++ below) = (node.at? above).bind (·.at? below) := by
  induction above generalizing node with
  | nil => cases node <;> rfl
  | cons name above ih =>
    cases node with
    | folder entries =>
      rw [List.cons_append, at?, at?]
      cases entries.lookup name with
      | none => rfl
      | some found => exact ih found
    | _ => rfl

/-- Both ways of looking up find the same. -/
theorem Folder.node?_eq (root : Folder) (place : Place) :
    root.node? place = (Node.folder root).at? place.reverse := by
  induction place with
  | nil => rfl
  | cons name above ih =>
    rw [Folder.node?, ih, List.reverse_cons, Node.at?_append]
    cases (Node.folder root).at? above.reverse with
    | none => rfl
    | some node =>
      cases node with
      | folder entries => cases found : entries.lookup name <;> simp [Node.at?, found]
      | _ => rfl

/-! ## Putting a node into a tree -/

/-- What stands in the place of a node after something was written: of a folder a folder, of anything
else itself. -/
def Node.Stays : Node → Node → Prop
  | .folder _, .folder _ => True
  | before, after => before = after

theorem Node.Stays.refl (node : Node) : node.Stays node := by
  cases node <;> simp [Stays]

theorem Node.Stays.trans {a b c : Node} (first : a.Stays b) (second : b.Stays c) : a.Stays c := by
  cases a <;> cases b <;> cases c <;> simp_all [Stays]

/-- What stood at a place still stands there. -/
def Folder.KeepsAt (before after : Folder) (place : Place) : Prop :=
  ∀ node, before.node? place = some node → ∃ later, after.node? place = some later ∧ node.Stays later

theorem Folder.KeepsAt.refl (root : Folder) (place : Place) : root.KeepsAt root place :=
  fun node found => ⟨node, found, .refl node⟩

theorem Folder.KeepsAt.trans {a b c : Folder} {place : Place} (first : a.KeepsAt b place)
    (second : b.KeepsAt c place) : a.KeepsAt c place := by
  intro node found
  obtain ⟨next, foundNext, staysNext⟩ := first node found
  obtain ⟨last, foundLast, staysLast⟩ := second next foundNext
  exact ⟨last, foundLast, staysNext.trans staysLast⟩

/-- Where a file can be written: there is nothing, or a file. -/
def Node.Free (found : Option Node) : Prop := ∀ node, found = some node → ∃ old, node = .file old

section
variable {entries : Folder} {name other : String} {node : Node}

theorem Folder.lookup_put_self : (Folder.put name node entries).lookup name = some node := by
  fun_induction Folder.put name node entries with
  | case1 | case2 => simp
  | case3 n old more differs ih =>
    have apart : (name == n) = false := by simpa using Ne.symm differs
    rw [List.lookup_cons, apart]
    exact ih

theorem Folder.lookup_put_of_ne (h : other ≠ name) :
    (Folder.put name node entries).lookup other = entries.lookup other := by
  have apart : (other == name) = false := by simpa using h
  fun_induction Folder.put name node entries with
  | case1 | case2 => simp [List.lookup_cons, apart]
  | case3 n old more differs ih => simp only [List.lookup_cons, ih]

/-- Below the first of several names only what stands there changes. -/
theorem Folder.putAt_cons {rest : List String} (h : rest ≠ []) :
    Folder.putAt node (name :: rest) entries =
      entries.put name (.folder (Folder.putAt node rest (Node.entries (entries.lookup name)))) := by
  cases rest with
  | nil => exact absurd rfl h
  | cons next rest => rfl

theorem at?_putAt {names : List String} (h : names ≠ []) :
    (Node.folder (Folder.putAt node names entries)).at? names = some node := by
  induction names generalizing entries with
  | nil => exact absurd rfl h
  | cons name rest ih =>
    by_cases last : rest = []
    · subst last
      simp [Folder.putAt, Node.at?, Folder.lookup_put_self]
    · rw [Folder.putAt_cons last, Node.at?, Folder.lookup_put_self]
      exact ih last

/-- Putting a node at the end of names changes nothing elsewhere if they lead to a folder that has nothing
or a file of the last name. -/
theorem at?_putAt_stays {inner : Folder} {above : List String}
    (leads : (Node.folder entries).at? above = some (.folder inner))
    (free : Node.Free (inner.lookup name)) {names : List String} (ne : names ≠ above ++ [name])
    {found : Node} (stood : (Node.folder entries).at? names = some found) :
    ∃ later, (Node.folder (Folder.putAt node (above ++ [name]) entries)).at? names = some later ∧
      found.Stays later := by
  -- along both lists of names, until they part or the names looked up come to their end
  induction above generalizing entries names with
  | nil =>
    cases leads
    cases names with
    | nil => cases stood; exact ⟨_, rfl, trivial⟩
    | cons next rest =>
      by_cases same : next = name
      · subst same
        rw [Node.at?] at stood
        obtain ⟨child, here, below⟩ := Option.bind_eq_some_iff.1 stood
        obtain ⟨old, rfl⟩ := free child here
        cases rest with
        | nil => exact absurd rfl ne
        | cons _ _ => cases below
      · refine ⟨found, ?_, .refl found⟩
        rw [← stood, List.nil_append, Folder.putAt, Node.at?, Node.at?, Folder.lookup_put_of_ne same]
  | cons first above ih =>
    rw [Node.at?] at leads
    obtain ⟨child, here, below⟩ := Option.bind_eq_some_iff.1 leads
    obtain ⟨children, rfl⟩ : ∃ children, child = .folder children := by
      cases child with
      | folder children => exact ⟨children, rfl⟩
      | _ => cases above <;> cases below
    rw [List.cons_append, Folder.putAt_cons (by simp), here]
    cases names with
    | nil => cases stood; exact ⟨_, rfl, trivial⟩
    | cons next rest =>
      rw [Node.at?] at stood ⊢
      by_cases same : next = first
      · subst same
        rw [here, Option.bind_some] at stood
        rw [Folder.lookup_put_self, Option.bind_some]
        exact ih below (fun e => ne (by rw [e]; rfl)) stood
      · rw [Folder.lookup_put_of_ne same]
        exact ⟨found, stood, .refl found⟩

end

namespace Tree

variable {t t' : Tree} {place : Place} {name : String} {node : Node} {contents : List UInt8}

theorem node?_put : (t.put (name :: place) node).root.node? (name :: place) = some node := by
  rw [Folder.node?_eq]
  exact at?_putAt (by simp)

/-- **Putting a node into a folder keeps the rest of the tree.** -/
theorem keepsAt_put {entries : Folder} (folder : t.root.node? place = some (.folder entries))
    (free : Node.Free (entries.lookup name)) {other : Place} (ne : other ≠ name :: place) :
    t.root.KeepsAt (t.put (name :: place) node).root other := by
  intro found stood
  rw [Folder.node?_eq] at folder stood ⊢
  rw [put, List.reverse_cons]
  refine at?_putAt_stays folder free (fun same => ne ?_) stood
  rw [← List.reverse_inj, same, List.reverse_cons]

/-! ## Making folders and links -/

/-- A name is free if it is a name that the folder does not have. -/
theorem exists_of_isFree (h : t.isFree place name = .ok true) :
    ∃ entries, t.root.node? place = some (.folder entries) ∧ entries.lookup name = none := by
  unfold isFree at h
  split at h
  · cases h
  split at h
  · cases h
  split at h
  · rename_i entries folder
    exact ⟨entries, folder, Option.isNone_iff_eq_none.1 (Except.ok.inj h)⟩
  · cases h

theorem free_of_eq_none {found : Option Node} (h : found = none) : Node.Free found := by
  intro node stands
  rw [h] at stands
  cases stands

/-- The tree is seen from the same folder, and keeps what it has. -/
structure Keeps (t t' : Tree) : Prop where
  here : t'.here = t.here
  root : ∀ place, t.root.KeepsAt t'.root place

theorem Keeps.refl (t : Tree) : t.Keeps t := ⟨rfl, fun place => .refl t.root place⟩

theorem Keeps.trans {a b c : Tree} (first : a.Keeps b) (second : b.Keeps c) : a.Keeps c :=
  ⟨second.here.trans first.here, fun place => (first.root place).trans (second.root place)⟩

/-- What is put where nothing stands takes nothing away. -/
theorem keeps_put_of_isFree (h : t.isFree place name = .ok true) :
    t.Keeps (t.put (name :: place) node) := by
  obtain ⟨entries, folder, vacant⟩ := exists_of_isFree h
  refine ⟨rfl, fun other => ?_⟩
  by_cases same : other = name :: place
  · subst same
    intro found stood
    rw [Folder.node?, folder] at stood
    exact absurd (vacant.symm.trans stood) nofun
  · exact keepsAt_put folder (free_of_eq_none vacant) same

theorem enter_keeps {place' : Place} (h : t.enter place name = .ok (t', place')) : t.Keeps t' := by
  obtain ⟨free, isFree, rest⟩ := exists_of_bind_eq_ok h
  cases free with
  | true =>
    cases rest
    exact keeps_put_of_isFree isFree
  | false =>
    obtain ⟨_, -, done⟩ := exists_of_bind_eq_ok rest
    cases done
    exact .refl t

theorem enterAll_keeps {place' : Place} {names : List String}
    (h : t.enterAll place names = .ok (t', place')) : t.Keeps t' :=
  foldlM_keeps (R := fun a b : Tree × Place => a.1.Keeps b.1) (fun a => .refl a.1) Keeps.trans
    enter_keeps h

/-- **Making a folder keeps what there is.** -/
theorem makeFolder_keeps {path : String} (h : t.makeFolder path = .ok t') : t.Keeps t' := by
  unfold makeFolder at h
  cases entered : t.enterAll (t.start path) (components path) with
  | error fault => rw [entered] at h; cases h
  | ok made =>
    rw [entered] at h
    cases h
    exact enterAll_keeps entered

/-- **Making a link keeps what there is.** -/
theorem makeLink_keeps {path target : String} (h : t.makeLink path target = .ok t') : t.Keeps t' := by
  obtain ⟨⟨made, place⟩, entered, rest⟩ := exists_of_bind_eq_ok h
  obtain ⟨free, isFree, rest⟩ := exists_of_bind_eq_ok rest
  cases free with
  | true =>
    cases rest
    exact (enterAll_keeps entered).trans (keeps_put_of_isFree isFree)
  | false => cases rest

/-! ## Writing files -/

/-- A file was written at a place, or a device stands there, and the rest of the tree is kept. -/
structure Wrote (t t' : Tree) (contents : List UInt8) (file : Place) : Prop where
  here : t'.here = t.here
  holds : t'.root.node? file = some (.file contents) ∨ t'.root.node? file = some .device
  root : ∀ place, place ≠ file → t.root.KeepsAt t'.root place

theorem Keeps.wrote {a b c : Tree} {file : Place} (first : a.Keeps b)
    (second : b.Wrote c contents file) : a.Wrote c contents file :=
  ⟨second.here.trans first.here, second.holds,
    fun place ne => (first.root place).trans (second.root place ne)⟩

theorem wrote_put {entries : Folder} (folder : t.root.node? place = some (.folder entries))
    (free : Node.Free (entries.lookup name)) :
    t.Wrote (t.put (name :: place) (.file contents)) contents (name :: place) :=
  ⟨rfl, .inl node?_put, fun _ => keepsAt_put folder free⟩

/-- A file stands in a folder. -/
theorem exists_folder_of_file {old : List UInt8}
    (found : t.root.node? (name :: place) = some (.file old)) :
    ∃ entries, t.root.node? place = some (.folder entries) ∧ Node.Free (entries.lookup name) := by
  rw [Folder.node?] at found
  split at found
  · rename_i entries folder
    refine ⟨entries, folder, fun node here => ⟨old, ?_⟩⟩
    exact Option.some.inj (here.symm.trans found)
  · cases found

theorem exists_wrote_of_write {links : Nat} (h : t.write contents links place name = .ok t') :
    ∃ file, t.Wrote t' contents file := by
  induction links using Nat.strongRecOn generalizing place name with
  | _ links ih =>
    unfold write at h
    obtain ⟨free, isFree, rest⟩ := exists_of_bind_eq_ok h
    cases free with
    | true =>
      cases rest
      obtain ⟨entries, folder, vacant⟩ := exists_of_isFree isFree
      exact ⟨_, wrote_put folder (free_of_eq_none vacant)⟩
    | false =>
      rw [if_neg Bool.false_ne_true] at rest
      split at rest
      · rename_i old found
        cases rest
        obtain ⟨entries, folder, file⟩ := exists_folder_of_file found
        exact ⟨_, wrote_put folder file⟩
      · rename_i found
        cases rest
        exact ⟨_, rfl, .inr found, fun place _ => .refl t.root place⟩
      · cases rest
      · -- the link is followed, and the file is written where it leads
        rename_i more _
        obtain ⟨folder, -, written⟩ := exists_of_bind_eq_ok rest
        exact ih more (Nat.lt_succ_self more) written
      · cases rest

/-- **Writing a file keeps what there is**, but for the file that is written. At its place there is a file
with these contents afterwards, if no device stands there. -/
theorem writeFile_keeps {path : String} (h : t.writeFile path contents = .ok t') :
    ∃ file, t.Wrote t' contents file := by
  obtain ⟨⟨made, place⟩, entered, rest⟩ := exists_of_bind_eq_ok h
  obtain ⟨file, wrote⟩ := exists_wrote_of_write rest
  exact ⟨file, (enterAll_keeps entered).wrote wrote⟩

/-! ## Opening what was written -/

theorem isFree_of_isName {entries : Folder} (named : IsName name)
    (folder : t.root.node? place = some (.folder entries)) :
    t.isFree place name = .ok (entries.lookup name).isNone := by
  obtain ⟨ne, here, above, -, -, short⟩ := named
  rw [isFree, if_neg (by simp [ne, here, above]), if_neg (Nat.not_lt.2 short), folder]

/-- A file is written under a name that is free or a file's. -/
theorem write_of_free {entries : Folder} (named : IsName name)
    (folder : t.root.node? place = some (.folder entries)) (free : Node.Free (entries.lookup name))
    (contents : List UInt8) (links : Nat) :
    t.write contents links place name = .ok (t.put (name :: place) (.file contents)) := by
  have empty := isFree_of_isName named folder
  cases stands : entries.lookup name with
  | none =>
    unfold write
    rw [empty, stands]
    rfl
  | some node =>
    obtain ⟨old, rfl⟩ := free node stands
    have found : t.root.node? (name :: place) = some (.file old) := by
      rw [Folder.node?, folder]
      exact stands
    unfold write
    rw [empty, stands, found]
    rfl

/-- **What is written is what is opened**, for a name of the working folder that is free or a file's. -/
theorem opener_writeFile {entries : Folder} (named : IsName name)
    (folder : t.root.node? t.here = some (.folder entries)) (free : Node.Free (entries.lookup name))
    (contents : List UInt8) :
    ∃ t', t.writeFile name contents = .ok t' ∧ t'.opener name = .ok (.file contents) := by
  refine ⟨t.put (name :: t.here) (.file contents), ?_, ?_⟩
  · rw [writeFile, components_of_isName named, start_of_isName named]
    exact write_of_free named folder free contents linkLimit
  · refine opener_of_file ?_ node?_put
    rw [locate_of_isName named]
    exact Folder.locate_of_file named node?_put

/-- A run on a file that was written is the run on its contents. -/
theorem runFile_writeFile {entries : Folder} (named : IsName name)
    (folder : t.root.node? t.here = some (.folder entries)) (free : Node.Free (entries.lookup name))
    (judge : Validator) (contents : List UInt8) (sink : Sink) :
    ∃ t', t.writeFile name contents = .ok t' ∧
      runFile judge t'.opener name sink = (run judge (.ofBytes contents) sink).logged name := by
  obtain ⟨t', written, opens⟩ := opener_writeFile named folder free contents
  exact ⟨t', written, runFile_of_file opens⟩

end Tree

end AmountReport.Files
