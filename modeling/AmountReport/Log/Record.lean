import AmountReport.Text.Quoted
import AmountReport.Text.Terminal

/-!
# Log records

A record has a level, a target that says which part of the program speaks, a message, and named
fields. On a line of the log it reads as level, message, and fields.
-/

namespace AmountReport.Log

/-- From what must be known to what may be. -/
inductive Level
  | error | warn | info | debug | trace
  deriving DecidableEq, Repr, Inhabited

namespace Level

/-- How much is shown: the level and those of less detail. -/
def detail : Level → Nat
  | .error => 1
  | .warn => 2
  | .info => 3
  | .debug => 4
  | .trace => 5

def label : Level → String
  | .error => "ERROR"
  | .warn => "WARN"
  | .info => "INFO"
  | .debug => "DEBUG"
  | .trace => "TRACE"

end Level

/-- The value of a field. -/
inductive Field
  | number (n : Int)
  | text (s : String)
  deriving DecidableEq, Repr

/-- Numbers in decimal, texts in quotes. -/
def Field.render : Field → String
  | .number n => Int.repr n
  | .text s => Text.quote s

structure Record where
  level : Level
  target : String
  message : String
  fields : List (String × Field) := []
  deriving DecidableEq, Repr

/-- The record on a line of the log. -/
def Record.line (r : Record) : String :=
  r.level.label ++ " " ++ Text.showControls r.message ++
    String.join (r.fields.map fun (name, value) => " " ++ name ++ "=" ++ value.render)

end AmountReport.Log
