import AmountReport.Proofs.Files.Tree
import AmountReport.Proofs.Report.Intake
import AmountReport.Report.FileRun

/-!
# Runs on files

A file arrives in blocks, but a run does not see where they end (`run_of_delivers`), so it is the run on
the contents at once. Before that the path has to lead to a file: what goes wrong there is a missing
input and nothing has been done, what goes wrong later is a fault of the run.

Main statement: a run on a path does nothing, or is the run on the contents of the file between two
events of its own (`runFile_refuses_or_runs`).
-/

namespace AmountReport

/-- A path does not lead to a file, for a cause: it does not open, or to something else. -/
def Opener.Refuses (opener : Opener) (path : String) (cause : Fault) : Prop :=
  opener path = .error cause ∨ opener path = .ok .other ∧ cause = .notRegular

/-- A path is refused or leads to a file. -/
theorem Opener.refuses_or_opens (opener : Opener) (path : String) :
    (∃ cause, opener.Refuses path cause) ∨ ∃ contents, opener path = .ok (.file contents) := by
  cases opened : opener path with
  | error cause => exact .inl ⟨cause, .inl opened⟩
  | ok found =>
    cases found with
    | other => exact .inl ⟨.notRegular, .inr ⟨opened, rfl⟩⟩
    | file contents => exact .inr ⟨contents, rfl⟩

/-- Blocks bring the bytes of the file, in order, and none of them is empty. -/
theorem Source.delivers_inBlocks (bytes : List UInt8) : (Source.inBlocks bytes).Delivers bytes := by
  refine .inr ?_
  fun_induction Source.inBlocks bytes with
  | case1 bytes none =>
    rw [List.isEmpty_iff.1 none]
    exact ⟨List.not_mem_nil, rfl⟩
  | case2 bytes some ih =>
    obtain ⟨gapless, arrivals⟩ := ih
    constructor
    · intro gap
      rcases List.mem_cons.1 gap with first | later
      · have empty : bytes.take Source.blockSize = [] := (Refill.data.inj first).symm
        rw [List.take_eq_nil_iff] at empty
        simp_all [Source.blockSize]
      · exact gapless later
    · rw [Source.arrivals, arrivals, ← List.map_append, List.take_append_drop]

section
variable {judge : Validator} {source : Source} {sink : Sink} {failure : Failure}

/-- **How bytes are delivered does not show.** -/
theorem run_of_delivers {bytes : List UInt8} (h : source.Delivers bytes) :
    run judge source sink = run judge (.ofBytes bytes) sink := by
  unfold run
  rw [Progress.consume_of_delivers judge _ h, Progress.consume_of_delivers judge _ (.inl rfl)]

/-- A run fails with nothing but faults of reading and writing. -/
theorem eq_io_of_outcome_run (failed : (run judge source sink).outcome = .error failure) :
    ∃ fault, failure = .io fault := by
  rw [run_eq_take] at failed
  split at failed
  · exact ⟨_, (Except.error.inj failed).symm⟩
  · rw [Progress.finish_eq] at failed
    dsimp only at failed
    split at failed
    · cases failed
    · exact ⟨_, (Except.error.inj failed).symm⟩

variable {opener : Opener} {path : String}

theorem runFile_of_refuses {cause : Fault} (h : opener.Refuses path cause) :
    runFile judge opener path sink = .refused sink (.missingInput path cause) := by
  rcases h with h | ⟨h, rfl⟩ <;> rw [runFile, h]

theorem runFile_of_file {contents : List UInt8} (h : opener path = .ok (.file contents)) :
    runFile judge opener path sink = (run judge (.ofBytes contents) sink).logged path := by
  rw [runFile, h]
  exact congrArg (Run.logged path) (run_of_delivers (Source.delivers_inBlocks contents))

/-- The input is missing only of a path that is refused, and for that cause. -/
theorem refuses_of_outcome_runFile {named : String} {cause : Fault}
    (missing : (runFile judge opener path sink).outcome = .error (.missingInput named cause)) :
    named = path ∧ opener.Refuses path cause := by
  rcases opener.refuses_or_opens path with ⟨refusal, refuses⟩ | ⟨contents, opens⟩
  · rw [runFile_of_refuses refuses] at missing
    cases missing
    exact ⟨rfl, refuses⟩
  · rw [runFile_of_file opens] at missing
    obtain ⟨fault, io⟩ := eq_io_of_outcome_run missing
    cases io

end

namespace Run

variable {path : String} {r : Run}

theorem events_logged_of_ok {summary : Summary} (h : r.outcome = .ok summary) :
    (r.logged path).events = .reading path :: (r.events ++ [.finished summary]) := by
  rw [logged, h]

theorem events_logged_of_error {failure : Failure} (h : r.outcome = .error failure) :
    (r.logged path).events = .reading path :: r.events := by
  rw [logged, h, List.append_nil]

end Run

/-- **A run on a path touches nothing or is a run.** If the path does not open, or not to a file, the
input is missing, for that cause, and no byte is written, no flush made, no text put to the validator
and nothing told to the log. If it opens to a file, the outcome, the output, the flushes and the
questions are those of the run on its contents at once, or in any refills that deliver them, so that no
failure is for a missing input. The log is told that the file is read, then what that run tells it, and
then, if the run succeeds, how many lines were classified, which are the valid and the invalid ones, and
how many were blank. -/
theorem runFile_refuses_or_runs (judge : Validator) (opener : Opener) (path : String)
    (room : Option Nat) (flushFault : Option Fault) :
    let sink : Sink := { room := room, flushFault := flushFault }
    let r := runFile judge opener path sink
    ((∃ cause, opener.Refuses path cause) ∨ ∃ contents, opener path = .ok (.file contents)) ∧
      (∀ cause, opener.Refuses path cause →
        r = ⟨.error (.missingInput path cause), [], 0, [], []⟩) ∧
      (∀ contents, opener path = .ok (.file contents) →
        let whole := run judge (.ofBytes contents) sink
        r.outcome = whole.outcome ∧ r.output = whole.output ∧ r.flushes = whole.flushes ∧
          r.asked = whole.asked ∧
          (∀ refills : Source, refills.Delivers contents → run judge refills sink = whole) ∧
          (∀ failure, r.outcome = .error failure →
            (∃ fault, failure = .io fault) ∧ r.events = .reading path :: whole.events) ∧
          ∀ summary, r.outcome = .ok summary →
            r.events = .reading path :: (whole.events ++ [.finished summary])) ∧
      (Event.reading path).record = ⟨.debug, Event.target, "Reading " ++ path, []⟩ ∧
      ∀ summary : Summary, (Event.finished summary).record =
        ⟨.info, Event.target, "Classified " ++ (summary.valid + summary.invalid).repr ++ " lines (" ++
          summary.valid.repr ++ " valid, " ++ summary.invalid.repr ++ " invalid, " ++
          summary.skipped.repr ++ " blank skipped)", []⟩ := by
  intro sink r
  refine ⟨opener.refuses_or_opens path, fun cause h => runFile_of_refuses h, ?_, rfl, fun _ => rfl⟩
  intro contents h whole
  have same : r = whole.logged path := runFile_of_file h
  rw [same]
  refine ⟨rfl, rfl, rfl, rfl, fun _ delivered => run_of_delivers delivered, ?_, ?_⟩
  · intro failure failed
    exact ⟨eq_io_of_outcome_run failed, Run.events_logged_of_error failed⟩
  · intro summary ok
    exact Run.events_logged_of_ok ok

/-- A link to a file, which is reported on and just has room, and a folder, which is not. -/
theorem runFile_refuses_folder_and_runs_link :
    let tree : Files.Tree :=
      ⟨[("a", .file [0x31, 0x0A, 0x0D, 0x32]), ("d", .folder []), ("l", .link "a")], []⟩
    let judge : Validator := (· == "1")
    let whole := run judge (.ofBytes [0x31, 0x0A, 0x0D, 0x32]) { room := some 82 }
    tree.opener.Refuses "d" .notRegular ∧
      runFile judge tree.opener "d" { room := some 82 } =
        ⟨.error (.missingInput "d" .notRegular), [], 0, [], []⟩ ∧
      tree.opener "l" = .ok (.file [0x31, 0x0A, 0x0D, 0x32]) ∧ whole.outcome = .ok ⟨1, 1, 1⟩ ∧
      (runFile judge tree.opener "l" { room := some 82 }).output = whole.output ∧
      (runFile judge tree.opener "l" { room := some 82 }).events =
        [.reading "l", .classified 1 ⟨"1", .valid⟩, .classified 3 ⟨"2", .invalid⟩,
          .finished ⟨1, 1, 1⟩] := by
  intro tree judge whole
  have folder : tree.opener "d" = .ok .other := by
    have located : tree.locate "d" = .ok ["d"] := by
      rw [Files.Tree.locate_of_isName (by decide), Files.Folder.locate_of_folder (by decide) rfl,
        Files.Folder.locate_nil]
    exact Files.Tree.opener_of_folder located rfl
  have link : tree.opener "l" = .ok (.file [0x31, 0x0A, 0x0D, 0x32]) := by
    have located : tree.locate "l" = .ok ["a"] := by
      rw [Files.Tree.locate_of_isName (by decide)]
      show tree.root.locate (39 + 1) [] ["l"] = _
      rw [Files.Folder.locate_of_link (by decide) rfl]
      show tree.root.locate 39 [] ["a"] = _
      rw [Files.Folder.locate_of_file (by decide) rfl]
      rfl
    exact Files.Tree.opener_of_file located rfl
  have ok : whole.outcome = .ok ⟨1, 1, 1⟩ := by decide +kernel
  have told : whole.events = [.classified 1 ⟨"1", .valid⟩, .classified 3 ⟨"2", .invalid⟩] := by
    decide +kernel
  have refuses : tree.opener.Refuses "d" .notRegular := .inr ⟨folder, rfl⟩
  obtain ⟨-, refused, -, -⟩ := runFile_refuses_or_runs judge tree.opener "d" (some 82) none
  obtain ⟨-, -, runs, -⟩ := runFile_refuses_or_runs judge tree.opener "l" (some 82) none
  obtain ⟨outcome, output, -, -, -, -, events⟩ := runs _ link
  refine ⟨refuses, refused _ refuses, link, ok, output, (events _ (outcome.trans ok)).trans ?_⟩
  rw [told]
  rfl

end AmountReport
