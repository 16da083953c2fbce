/-!
# The grammar of amounts

A Brazilian currency amount: an optional currency symbol, then a number with `.` between groups of
three digits and `,` before at least two decimals, negative if a minus stands before it or
parentheses stand around it.

```text
Line     ::= Symbol? Amount
Symbol   ::= "$" | Letters "$"?
Amount   ::= "-" Plain | "(" Plain ")" | Plain
Plain    ::= Integer "," Digit{2,}
Integer  ::= "0" | Digit19 Digit{0,2} | Digit19 Digit? ("." Digit{3})+
```

Letters and digits are those of ASCII. Each rule is an inductive family over whole texts, so a proof
of `Line s` is a derivation of `s`. `Parts` is the flat reading of a derivation.
-/

namespace AmountReport.Amount

/-- A digit that may begin an integer of several digits. -/
def isLeadDigit (c : Char) : Bool := '1' ≤ c && c ≤ '9'

/-- All characters are ASCII digits. -/
def Digits (s : List Char) : Prop := ∀ c ∈ s, c.isDigit = true

/-- All characters are ASCII letters. -/
def Letters (s : List Char) : Prop := ∀ c ∈ s, c.isAlpha = true

instance (s : List Char) : Decidable (Digits s) := List.decidableBAll _ s
instance (s : List Char) : Decidable (Letters s) := List.decidableBAll _ s

/-- Groups of three digits, a point before each. -/
inductive Groups : List Char → Prop
  | nil : Groups []
  | cons {x y z rest} : Digits [x, y, z] → Groups rest → Groups ('.' :: x :: y :: z :: rest)

inductive Integer : List Char → Prop
  | zero : Integer ['0']
  | short {d ds} : isLeadDigit d = true → Digits ds → ds.length ≤ 2 → Integer (d :: ds)
  | grouped {d ds gs} : isLeadDigit d = true → Digits ds → ds.length ≤ 1 →
      Groups gs → gs ≠ [] → Integer (d :: (ds ++ gs))

/-- The decimals: two digits or more. -/
structure Fraction (s : List Char) : Prop where
  digits : Digits s
  two_le_length : 2 ≤ s.length

inductive Plain : List Char → Prop
  | mk {i f} : Integer i → Fraction f → Plain (i ++ ',' :: f)

inductive Signed : List Char → Prop
  | minus {p} : Plain p → Signed ('-' :: p)
  | parentheses {p} : Plain p → Signed ('(' :: (p ++ [')']))
  | bare {p} : Plain p → Signed p

inductive Symbol : List Char → Prop
  | dollar : Symbol ['$']
  | letters {ls} : Letters ls → ls ≠ [] → Symbol ls
  | lettersDollar {ls} : Letters ls → ls ≠ [] → Symbol (ls ++ ['$'])

inductive Line : List Char → Prop
  | bare {a} : Signed a → Line a
  | withSymbol {s a} : Symbol s → Signed a → Line (s ++ a)

/-! ## The parts of an amount -/

/-- What stands before the integer of an amount. -/
inductive Sign
  | none | minus | parentheses
  deriving DecidableEq, Repr

/-- The character that opens a signed amount. -/
def Sign.opening : Sign → List Char
  | .none => []
  | .minus => ['-']
  | .parentheses => ['(']

/-- The character that closes it. -/
def Sign.closing : Sign → List Char
  | .none | .minus => []
  | .parentheses => [')']

/-- The ways to cut a text into symbol, sign, integer and decimals. -/
structure Parts where
  symbol : List Char
  sign : Sign
  integer : List Char
  fraction : List Char
  deriving DecidableEq, Repr

namespace Parts

/-- The text from the integer to the end of the decimals. -/
def number (p : Parts) : List Char := p.integer ++ ',' :: p.fraction

def text (p : Parts) : List Char :=
  p.symbol ++ (p.sign.opening ++ (p.number ++ p.sign.closing))

/-- Each part is in its language. -/
structure WellFormed (p : Parts) : Prop where
  symbol : p.symbol = [] ∨ Symbol p.symbol
  integer : Integer p.integer
  fraction : Fraction p.fraction

end Parts

end AmountReport.Amount
