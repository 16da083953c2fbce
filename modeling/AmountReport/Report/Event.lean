import AmountReport.Log.Record
import AmountReport.Report.Summary

/-!
# The events of a run

What a run tells a log: each line that it classifies, and for a file that it begins and how it came
out.
-/

namespace AmountReport

inductive Event
  /-- A line was classified, before it is written. -/
  | classified (lineNumber : Int32) (entry : Entry)
  /-- A file was opened. -/
  | reading (path : String)
  /-- A file was reported on to its end. -/
  | finished (summary : Summary)
  deriving DecidableEq, Repr

namespace Event

/-- The part of the program that reports. -/
def target : String := "currency_validator::core::report"

def record : Event → Log.Record
  | .classified lineNumber entry =>
    ⟨.debug, target, "classified " ++ Text.quote entry.text,
      [("line_number", .number lineNumber.toInt), ("verdict", .text entry.verdict.label)]⟩
  | .reading path => ⟨.debug, target, "Reading " ++ path, []⟩
  | .finished s =>
    ⟨.info, target, "Classified " ++ s.classified.repr ++ " lines (" ++ s.valid.repr ++ " valid, " ++
      s.invalid.repr ++ " invalid, " ++ s.skipped.repr ++ " blank skipped)", []⟩

end Event

end AmountReport
