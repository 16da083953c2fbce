import AmountReport.Files.Opened
import AmountReport.Report.Run

/-!
# Runs on files

A file is reported on only if it opens and holds bytes; otherwise nothing is read, asked, logged or
written. Its bytes arrive in blocks. This is `ReportEngine::run_file` (core/report, 79-103).
-/

namespace AmountReport

/-- A run that did not begin (core/report, 85-91). -/
def Run.refused (sink : Sink) (failure : Failure) : Run :=
  ⟨.error failure, sink.bytes, sink.flushes, [], []⟩

/-- A run, told to the log as one on a file (core/report, 92-101). -/
def Run.logged (path : String) (r : Run) : Run :=
  let ending := match r.outcome with
    | .ok summary => [.finished summary]
    | .error _ => []
  { r with events := .reading path :: (r.events ++ ending) }

/-- Reports on the file at a path (`ReportEngine::run_file`). -/
def runFile (judge : Validator) (opener : Opener) (path : String) (sink : Sink) : Run :=
  match opener path with
  | .error cause => .refused sink (.missingInput path cause)
  | .ok .other => .refused sink (.missingInput path .notRegular)
  | .ok (.file contents) => (run judge (.inBlocks contents) sink).logged path

end AmountReport
