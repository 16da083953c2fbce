import AmountReport.Text.Blank

/-!
# Verdicts and report lines

An entry is a classified text with its verdict. Its report line holds the text, padded to a column
of twenty-five characters, an arrow, and the label of the verdict; longer texts are not cut.
`Entry.read?` reads such a line back.
-/

namespace AmountReport

inductive Verdict
  | valid | invalid
  deriving DecidableEq, Repr, Inhabited

namespace Verdict

def ofBool : Bool → Verdict
  | true => .valid
  | false => .invalid

/-- The word that a report shows (`Verdict::label`, domain/model 13). -/
def label : Verdict → String
  | .valid => "VÁLIDO"
  | .invalid => "INVÁLIDO"

end Verdict

/-- A classified text (`ReportLine`, domain/model 33). -/
structure Entry where
  text : String
  verdict : Verdict
  deriving DecidableEq, Repr, Inhabited

/-- The least width of the column of texts, in characters. -/
def columnWidth : Nat := 25

/-- Fills up with spaces on the right. -/
def padRight (width : Nat) (s : String) : String :=
  s ++ String.ofList (List.replicate (width - s.length) ' ')

namespace Entry

/-- What stands between the column of texts and the label. -/
def arrow : String := "  →  "

/-- What follows the column of texts. -/
def ending (v : Verdict) : String := arrow ++ v.label

/-- The report line, without its line end (`ReportLine::fmt`, domain/model 39). -/
def render (e : Entry) : String :=
  padRight columnWidth e.text ++ ending e.verdict

end Entry

end AmountReport
