import AmountReport.Text.Printable

/-!
# Quoted texts

The form in which log messages show a text: between double quotes, with a backslash before a quote
or a backslash, short escapes for NUL, tab and the line ends, and the code point in hexadecimal for
every other character that would not print as a mark of its own. A single quote stays as it is.
-/

namespace AmountReport.Text

/-- How one character stands inside quotes. -/
def quoteChar (c : Char) : List Char :=
  if c = '\x00' then ['\\', '0']
  else if c = '\t' then ['\\', 't']
  else if c = '\r' then ['\\', 'r']
  else if c = '\n' then ['\\', 'n']
  else if c = '\\' ∨ c = '\x22' then ['\\', c]
  else if isPrintable c then [c]
  else hexEscape c

/-- A text between double quotes. -/
def quote (s : String) : String :=
  String.ofList ('\x22' :: (s.toList.flatMap quoteChar ++ ['\x22']))

end AmountReport.Text
