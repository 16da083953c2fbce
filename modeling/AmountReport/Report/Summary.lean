import AmountReport.Report.Entry

/-!
# Summaries

How many lines of each sort a run has met.

The program counts in machine words of sixty-four bits, here counts are natural numbers. That makes no
difference: a line takes at least one byte of the input (`lines_le_of_outcome_run`), and no machine
delivers 2^64 of those. The number of a line is kept at its width, which is half of that
(`Progress.lineNumber`).
-/

namespace AmountReport

/-- `ReportSummary` (domain/model, 51). -/
structure Summary where
  valid : Nat := 0
  invalid : Nat := 0
  /-- Blank lines. -/
  skipped : Nat := 0
  deriving DecidableEq, Repr, Inhabited

namespace Summary

/-- Counts a classified line (`ReportSummary::record`, domain/model 58). -/
def record (s : Summary) : Verdict → Summary
  | .valid => { s with valid := s.valid + 1 }
  | .invalid => { s with invalid := s.invalid + 1 }

/-- Counts a blank line. -/
def skip (s : Summary) : Summary := { s with skipped := s.skipped + 1 }

/-- The number of lines that were classified (`ReportSummary::classified`, domain/model 65). -/
def classified (s : Summary) : Nat := s.valid + s.invalid

/-- The number of all lines. -/
def lines (s : Summary) : Nat := s.classified + s.skipped

/-- The two summaries in one. -/
instance : Add Summary where
  add s t := ⟨s.valid + t.valid, s.invalid + t.invalid, s.skipped + t.skipped⟩

end Summary

end AmountReport
