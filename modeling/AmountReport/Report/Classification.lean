import AmountReport.Report.Entry

/-!
# Classification

A line is trimmed, and what is left of it goes to a validator, unless nothing is. `classifyM` asks
the validator in a monad, so that the questions can be recorded; `classify` is the answer alone.
-/

namespace AmountReport

/-- A judge of texts that are not empty and neither begin nor end with a blank. -/
abbrev Validator := String → Bool

/-- Trims a line and asks for a verdict; a blank line has none and is not asked about
(`ReportEngine::classify`, core/report 26-35). -/
def classifyM {m : Type → Type} [Monad m] (judge : String → m Bool) (raw : String) :
    m (Option Entry) := do
  let text := Text.trim raw
  if text.isEmpty then
    return none
  else
    return some ⟨text, .ofBool (← judge text)⟩

/-- The entry of a line, if it is not blank. -/
def classify (judge : Validator) (raw : String) : Option Entry :=
  Id.run (classifyM (fun text => pure (judge text)) raw)

/-- A validator whose questions are recorded, the latest first. -/
def Validator.recorded (judge : Validator) (text : String) : StateM (List String) Bool :=
  fun asked => (judge text, text :: asked)

/-- Recording changes no verdict, and a line is asked about exactly if it has an entry. -/
theorem classifyM_recorded (judge : Validator) (raw : String) (asked : List String) :
    (classifyM judge.recorded raw).run asked =
      (classify judge raw, (classify judge raw).toList.map Entry.text ++ asked) := by
  unfold classify classifyM
  dsimp only
  split <;> rfl

end AmountReport
