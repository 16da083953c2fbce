import AmountReport.Proofs.Amount.Pattern
import AmountReport.Proofs.Amount.Scan

/-!
# The two judgements agree

Both the pattern and the scan accept the lines of the grammar and nothing else, so they agree. The
pattern stands between anchors: a search of the text finds it only where it describes all of the text.

Main statements: the scan is a recogniser of the grammar (`accepts_iff_line`), and it accepts what a
search for the pattern finds (`isValid_eq_accepts`).
-/

namespace AmountReport.Amount

/-- What a text is searched for: the pattern of amounts, from the beginning to the end. -/
def Spelling.anchored : List Pattern.Part := [.start, .body line, .finish]

theorem isValid_iff (text : String) : isValid text = true ↔ Line text.toList := by
  rw [isValid, Pattern.accepts_iff, Spelling.matches_line_iff]

/-- **The scan accepts exactly the texts that have a derivation.** -/
theorem accepts_iff_line (text : String) : Scan.accepts text = true ↔ Line text.toList :=
  Scan.acceptsBytes_encode_iff text.toList

/-- **The two judgements agree on every text**, and both say whether a search for the anchored pattern
finds it. -/
theorem isValid_eq_accepts (text : String) :
    (Pattern.Found Spelling.anchored text.toList ↔ isValid text = true) ∧
      isValid text = Scan.accepts text := by
  constructor
  · rw [Spelling.anchored, Pattern.found_anchored_iff, isValid, Pattern.accepts_iff]
  · rw [Bool.eq_iff_iff, isValid_iff, Scan.accepts, Scan.acceptsBytes_encode_iff]

/-- Either judgement accepts the lines of the grammar. -/
theorem judgement_iff_line {judge : String → Bool} (h : judge ∈ [isValid, Scan.accepts])
    (text : String) : judge text = true ↔ Line text.toList := by
  simp only [List.mem_cons, List.not_mem_nil, or_false] at h
  rcases h with rfl | rfl
  · exact isValid_iff text
  · exact Scan.acceptsBytes_encode_iff text.toList

example : isValid "R$-1.234,00" = true ∧ isValid "123.456,00" = false := by decide

end AmountReport.Amount
