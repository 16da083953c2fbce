import AmountReport.Pattern
import AmountReport.Text.Blank

/-!
# Amounts by pattern

The grammar of amounts as one pattern, put together from its parts, and the judgement whether a text
is an amount as a whole. `isValid` takes the text as it is, `isValidLine` trims it first.

The pattern is that of `amount_pattern` (core/validator, 13-31), in the same parts.
-/

namespace AmountReport.Amount

namespace Spelling

def digit : Pattern := .range '0' '9'

def leadDigit : Pattern := .range '1' '9'

def letter : Pattern := .oneOf [('A', 'Z'), ('a', 'z')]

/-- `0`, up to three digits without a leading zero, or one or two of them before groups. -/
def integer : Pattern :=
  .alt (.char '0') <|
  .alt (.seq leadDigit (digit.upTo 2)) <|
  .seq leadDigit (.seq digit.optional (.many (.seq (.char '.') (digit.times 3))))

/-- Two decimals or more. -/
def fraction : Pattern := digit.atLeast 2

def plain : Pattern := .seq integer (.seq (.char ',') fraction)

/-- A dollar sign, letters, or letters before a dollar sign. -/
def symbol : Pattern := .alt (.char '$') (.seq letter.many (Pattern.char '$').optional)

/-- An amount with its sign: a minus before it, parentheses around it, or none. -/
def signed : Pattern :=
  .alt (.seq (.char '-') plain) <|
  .alt (.seq (.char '(') (.seq plain (.char ')'))) plain

/-- A whole amount. -/
def line : Pattern := .seq symbol.optional signed

end Spelling

/-- Whether a text, taken whole, is an amount (`is_valid_amount`, core/validator 34). -/
def isValid (text : String) : Bool := Spelling.line.accepts text.toList

/-- Whether a text is an amount between blanks (`validate_line`, core/validator 39). -/
def isValidLine (text : String) : Bool := isValid (Text.trim text)

end AmountReport.Amount
