/-!
# Grouped numbers

The canonical spelling of a natural number with `.` before every third digit, counted from the
right: no leading zero, and no separator below a thousand.
-/

namespace AmountReport.Amount

/-- Puts a point after every third digit that another one follows. Digits run from the units up. -/
def separate : List Char → List Char
  | x :: y :: z :: next :: rest => x :: y :: z :: '.' :: separate (next :: rest)
  | digits => digits

/-- The decimal digits of `n`, in groups of three. -/
def grouped (n : Nat) : List Char :=
  (separate (Nat.toDigits 10 n).reverse).reverse

example : String.ofList (grouped 1234567) = "1.234.567" := by decide
example : String.ofList (grouped 999) = "999" := by decide

end AmountReport.Amount
