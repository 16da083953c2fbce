import AmountReport.Command.Config
import AmountReport.Proofs.Files.Tree
import AmountReport.Proofs.Report.FileRun
import AmountReport.Proofs.Text.Blank

/-!
# Why a path is no input

A path that does not lead to a file is a missing input, and the message for the user is chosen by the kind
of the fault alone. The kind for an invalid input stands for two things: that the path opened, but not to
a file, and that it has a NUL in it and was not even tried. As paths with a NUL are refused as settings,
only the first is left.

Main statement: for a path that is accepted as a setting, the message tells what the path led to
(`userMessage_tells_cause`).
-/

namespace AmountReport

/-! ## Faults of following a path -/

/-- What opening promises: of the paths, only one with a NUL in it is an invalid input. -/
def Opener.InvalidOnlyForNul (opener : Opener) : Prop :=
  ∀ path fault, '\x00' ∉ path.toList → opener path = .error fault → fault.kind ≠ .invalidInput

section
variable {opener : Opener} {path : String} {cause fault : Fault}

/-- What a path is refused for is what opening it failed with. -/
theorem Opener.Refuses.eq_of_error (h : opener.Refuses path cause)
    (failed : opener path = .error fault) : cause = fault := by
  rcases h with failed' | ⟨opened, -⟩
  · exact Except.error.inj (failed'.symm.trans failed)
  · rw [opened] at failed
    cases failed

theorem Opener.Refuses.kind_notFound_iff (h : opener.Refuses path cause) :
    cause.kind = .notFound ↔ ∃ fault, opener path = .error fault ∧ fault.kind = .notFound := by
  constructor
  · intro kind
    rcases h with failed | ⟨-, rfl⟩
    · exact ⟨cause, failed, kind⟩
    · cases kind
  · rintro ⟨fault, failed, kind⟩
    rwa [h.eq_of_error failed]

/-- Without a NUL in the path, a refusal as an invalid input is one of what the path opened to. -/
theorem Opener.Refuses.kind_invalidInput_iff (h : opener.Refuses path cause)
    (promise : opener.InvalidOnlyForNul) (noNul : '\x00' ∉ path.toList) :
    cause.kind = .invalidInput ↔ opener path = .ok .other := by
  rcases h with failed | ⟨opened, rfl⟩
  · exact iff_of_false (promise path cause noNul failed) (by rw [failed]; nofun)
  · exact iff_of_true rfl opened

end

namespace Files

/-- A path is not followed to its end for want of a file, or of a folder on the way, or because a name or
the path is too long, or for too many links. -/
def pathFaults : List Fault := [.ofErrno 2, .ofErrno 20, .ofErrno 36, .ofErrno 40]

theorem Folder.mem_pathFaults_of_locate {root : Folder} {links : Nat} {place : Place}
    {names : List String} {fault : Fault} (h : root.locate links place names = .error fault) :
    fault ∈ pathFaults := by
  fun_induction Folder.locate root links place names with
  | case1 => cases h
  | case2 _ _ _ _ _ ih => exact ih h
  | case3 _ _ _ _ ih => exact ih h
  | case4 | case5 | case7 | case10 | case12 => cases h; simp [pathFaults]
  | case6 _ _ _ _ _ _ _ _ _ ih => exact ih h
  | case8 _ _ _ _ _ _ _ _ _ ih => exact ih h
  | case9 | case11 => cases h

/-- **A path with a NUL fails for it, and another one does not.** -/
theorem Tree.opener_of_error {tree : Tree} {path : String} {fault : Fault}
    (h : tree.opener path = .error fault) :
    '\x00' ∈ path.toList ∧ fault = .nulInPath ∨ '\x00' ∉ path.toList ∧ fault ∈ pathFaults := by
  have located : tree.locate path = .error fault := by
    unfold Tree.opener at h
    cases found : tree.locate path with
    | error cause => rw [found] at h; cases h; rfl
    | ok place =>
      rw [found] at h
      simp only [bind, Except.bind] at h
      split at h <;> cases h
  unfold Tree.locate at located
  split at located
  · rename_i nul
    cases located
    exact .inl ⟨by simpa using nul, rfl⟩
  · rename_i noNul
    refine .inr ⟨by simpa using noNul, ?_⟩
    split at located
    · cases located; simp [pathFaults]
    split at located
    · cases located; simp [pathFaults]
    · exact Folder.mem_pathFaults_of_locate located

theorem Tree.opener_of_nul (tree : Tree) {path : String} (nul : '\x00' ∈ path.toList) :
    tree.opener path = .error .nulInPath := by
  have located : tree.locate path = .error .nulInPath := if_pos (by simpa using nul)
  rw [Tree.opener, located]
  rfl

/-- A tree keeps the promise. -/
theorem Tree.invalidOnlyForNul (tree : Tree) : tree.opener.InvalidOnlyForNul := by
  intro path fault noNul failed
  rcases opener_of_error failed with ⟨nul, -⟩ | ⟨-, other⟩
  · exact absurd nul noNul
  · exact (by decide : ∀ fault ∈ pathFaults, fault.kind ≠ .invalidInput) fault other

end Files

/-! ## Messages -/

/-- What the user is told of a path that does not exist. -/
def notFoundMessage (path : String) : String := "Erro: o arquivo '" ++ path ++ "' não foi encontrado."

/-- What the user is told of a path that is no file. -/
def notFileMessage (path : String) : String := "Erro: '" ++ path ++ "' não é um arquivo."

/-- Texts that begin differently differ. -/
theorem append_ne_append {a b : String} (h : ¬ a.toList <+: b.toList ∧ ¬ b.toList <+: a.toList)
    (s t : String) : a ++ s ≠ b ++ t := by
  intro same
  have chars := congrArg String.toList same
  rw [String.toList_append, String.toList_append] at chars
  rcases List.prefix_or_prefix_of_prefix (List.prefix_append a.toList s.toList)
    (chars ▸ List.prefix_append b.toList t.toList) with front | front
  · exact h.1 front
  · exact h.2 front

theorem notFoundMessage_ne_notFileMessage (path : String) :
    notFoundMessage path ≠ notFileMessage path := by
  unfold notFoundMessage notFileMessage
  rw [String.append_assoc, String.append_assoc]
  exact append_ne_append (by decide) _ _

section
variable {path : String} {cause : Fault}

theorem userMessage_of_notFound (h : cause.kind = .notFound) :
    (Failure.missingInput path cause).userMessage = notFoundMessage path := by
  unfold Failure.userMessage notFoundMessage
  dsimp only
  rw [h]

theorem userMessage_of_invalidInput (h : cause.kind = .invalidInput) :
    (Failure.missingInput path cause).userMessage = notFileMessage path := by
  unfold Failure.userMessage notFileMessage
  dsimp only
  rw [h]

/-- Other kinds have other words. -/
theorem userMessage_of_other (path : String) (found : cause.kind ≠ .notFound)
    (file : cause.kind ≠ .invalidInput) :
    (Failure.missingInput path cause).userMessage ≠ notFoundMessage path ∧
      (Failure.missingInput path cause).userMessage ≠ notFileMessage path := by
  unfold Failure.userMessage notFoundMessage notFileMessage
  dsimp only
  split
  · contradiction
  · simp only [String.append_assoc]
    exact ⟨append_ne_append (by decide) _ _, append_ne_append (by decide) _ _⟩
  · contradiction
  · simp only [String.append_assoc]
    exact ⟨append_ne_append (by decide) _ _, append_ne_append (by decide) _ _⟩

/-- **The message goes by the kind of the fault.** -/
theorem userMessage_iff (path : String) (cause : Fault) :
    ((Failure.missingInput path cause).userMessage = notFoundMessage path ↔
        cause.kind = .notFound) ∧
      ((Failure.missingInput path cause).userMessage = notFileMessage path ↔
        cause.kind = .invalidInput) := by
  by_cases found : cause.kind = .notFound
  · rw [userMessage_of_notFound found, found]
    exact ⟨by simp, by simp [notFoundMessage_ne_notFileMessage]⟩
  by_cases file : cause.kind = .invalidInput
  · rw [userMessage_of_invalidInput file, file]
    exact ⟨by simp [(notFoundMessage_ne_notFileMessage path).symm], by simp⟩
  · obtain ⟨notFound, notFile⟩ := userMessage_of_other path found file
    exact ⟨iff_of_false notFound found, iff_of_false notFile file⟩

end

/-! ## Paths as settings -/

namespace Command

/-- **The paths that are refused** are blank throughout or have a NUL. -/
theorem exists_validatePath_eq_error_iff (field path : String) :
    (∃ failure, validatePath field path = .error failure) ↔
      (∀ c ∈ path.toList, Text.isBlank c = true) ∨ '\x00' ∈ path.toList := by
  unfold validatePath
  rw [Text.isEmpty_trim, ← List.all_eq_true]
  by_cases blank : path.toList.all Text.isBlank = true
  · rw [if_pos blank]
    exact ⟨fun _ => .inl blank, fun _ => ⟨_, rfl⟩⟩
  rw [if_neg blank]
  by_cases nul : path.toList.contains '\x00' = true
  · rw [if_pos nul]
    exact ⟨fun _ => .inr (by simpa using nul), fun _ => ⟨_, rfl⟩⟩
  · rw [if_neg nul]
    refine ⟨nofun, ?_⟩
    rintro (all | some)
    · exact absurd all blank
    · exact absurd (by simpa using some) nul

theorem nul_not_mem_of_validatePath {field path : String} (valid : validatePath field path = .ok ()) :
    '\x00' ∉ path.toList := by
  intro nul
  obtain ⟨failure, refused⟩ := (exists_validatePath_eq_error_iff field path).2 (.inr nul)
  rw [valid] at refused
  cases refused

end Command

/-- **The message tells why a path is no input.** Of a path that is accepted as a setting, and that the
run finds missing, the message says that it is no file exactly if it opens to something else, and that it
was not found exactly if opening fails with that kind; if opening fails with another kind, the message is
neither of these. This needs of opening that only paths with a NUL are invalid inputs to it, which holds
of every tree of files. Paths are refused as settings exactly if they are blank throughout or have a NUL,
so the fault for a NUL, of which the message would say that the path is no file, is never met. -/
theorem userMessage_tells_cause :
    (∀ opener : Opener, opener.InvalidOnlyForNul → ∀ path : String,
      Command.validatePath "input" path = .ok () →
        opener path ≠ .error .nulInPath ∧
        ∀ (judge : Validator) (sink : Sink) (named : String) (cause : Fault),
          (runFile judge opener path sink).outcome = .error (.missingInput named cause) →
            let message := (Failure.missingInput named cause).userMessage
            (message = "Erro: '" ++ path ++ "' não é um arquivo." ↔ opener path = .ok .other) ∧
            (message = "Erro: o arquivo '" ++ path ++ "' não foi encontrado." ↔
              ∃ fault, opener path = .error fault ∧ fault.kind = .notFound) ∧
            ∀ fault, opener path = .error fault → fault.kind ≠ .notFound →
              message ≠ "Erro: '" ++ path ++ "' não é um arquivo." ∧
                message ≠ "Erro: o arquivo '" ++ path ++ "' não foi encontrado.") ∧
      (∀ tree : Files.Tree, tree.opener.InvalidOnlyForNul) ∧
      (∀ field path : String, (∃ failure, Command.validatePath field path = .error failure) ↔
        (∀ c ∈ path.toList, Text.isBlank c = true) ∨ '\x00' ∈ path.toList) ∧
      ∀ (tree : Files.Tree) (path : String), '\x00' ∈ path.toList →
        tree.opener path = .error .nulInPath ∧
          (Failure.missingInput path .nulInPath).userMessage =
            "Erro: '" ++ path ++ "' não é um arquivo." := by
  refine ⟨?_, Files.Tree.invalidOnlyForNul, Command.exists_validatePath_eq_error_iff, ?_⟩
  · intro opener promise path valid
    have noNul := Command.nul_not_mem_of_validatePath valid
    refine ⟨fun failed => promise path _ noNul failed rfl, ?_⟩
    intro judge sink named cause missing message
    obtain ⟨rfl, refuses⟩ := refuses_of_outcome_runFile missing
    obtain ⟨found, file⟩ := userMessage_iff named cause
    have kindFound := refuses.kind_notFound_iff
    have kindFile := refuses.kind_invalidInput_iff promise noNul
    refine ⟨file.trans kindFile, found.trans kindFound, ?_⟩
    intro fault failed other
    obtain rfl := refuses.eq_of_error failed
    have opened : opener named ≠ .ok .other := by rw [failed]; nofun
    exact ⟨mt (file.trans kindFile).1 opened, mt found.1 other⟩
  · intro tree path nul
    exact ⟨tree.opener_of_nul nul, userMessage_of_invalidInput rfl⟩

/-- A folder is no file, a name that does not exist is not found, and a path through a file is neither. -/
theorem userMessage_tells_cause_of_three_paths :
    let tree : Files.Tree := ⟨[("d", .folder []), ("f", .file [])], []⟩
    let judge : Validator := fun _ => true
    let message (path : String) (cause : Fault) := (Failure.missingInput path cause).userMessage
    (Command.validatePath "input" "d" = .ok () ∧
        (runFile judge tree.opener "d" {}).outcome = .error (.missingInput "d" .notRegular) ∧
        message "d" .notRegular = "Erro: '" ++ "d" ++ "' não é um arquivo.") ∧
      (Command.validatePath "input" "x" = .ok () ∧
        (runFile judge tree.opener "x" {}).outcome = .error (.missingInput "x" (.ofErrno 2)) ∧
        message "x" (.ofErrno 2) = "Erro: o arquivo '" ++ "x" ++ "' não foi encontrado.") ∧
      Command.validatePath "input" "f/x" = .ok () ∧
        (runFile judge tree.opener "f/x" {}).outcome = .error (.missingInput "f/x" (.ofErrno 20)) ∧
        message "f/x" (.ofErrno 20) ≠ "Erro: '" ++ "f/x" ++ "' não é um arquivo." ∧
        message "f/x" (.ofErrno 20) ≠ "Erro: o arquivo '" ++ "f/x" ++ "' não foi encontrado." := by
  intro tree judge message
  have folder : tree.opener "d" = .ok .other := by
    have located : tree.locate "d" = .ok ["d"] := by
      rw [Files.Tree.locate_of_isName (by decide), Files.Folder.locate_of_folder (by decide) rfl,
        Files.Folder.locate_nil]
    exact Files.Tree.opener_of_folder located rfl
  have absent : tree.opener "x" = .error (.ofErrno 2) := by
    refine Files.Tree.opener_of_locate_eq_error ?_
    rw [Files.Tree.locate_of_isName (by decide), Files.Folder.locate_of_none (by decide) rfl]
  have through : tree.opener "f/x" = .error (.ofErrno 20) := by
    refine Files.Tree.opener_of_locate_eq_error ?_
    show tree.root.locate 40 [] ["f", "x"] = _
    rw [Files.Folder.locate_of_file (by decide) rfl]
    rfl
  have missing : ∀ path cause, tree.opener.Refuses path cause →
      (runFile judge tree.opener path {}).outcome = .error (.missingInput path cause) := by
    intro path cause refuses
    rw [runFile_of_refuses refuses]
    rfl
  have onFolder := missing "d" .notRegular (.inr ⟨folder, rfl⟩)
  have onAbsent := missing "x" _ (.inl absent)
  have onThrough := missing "f/x" _ (.inl through)
  have valid : Command.validatePath "input" "d" = .ok () ∧
      Command.validatePath "input" "x" = .ok () ∧ Command.validatePath "input" "f/x" = .ok () := by
    decide +kernel
  obtain ⟨tells, promise, -, -⟩ := userMessage_tells_cause
  have tells := tells tree.opener (promise tree)
  obtain ⟨-, folderTold⟩ := tells "d" valid.1
  obtain ⟨-, absentTold⟩ := tells "x" valid.2.1
  obtain ⟨-, throughTold⟩ := tells "f/x" valid.2.2
  refine ⟨⟨valid.1, onFolder, (folderTold _ _ _ _ onFolder).1.2 folder⟩,
    ⟨valid.2.1, onAbsent, (absentTold _ _ _ _ onAbsent).2.1.2 ⟨_, absent, rfl⟩⟩, valid.2.2,
    onThrough, ?_⟩
  exact (throughTold _ _ _ _ onThrough).2.2 _ through (by decide)

end AmountReport
