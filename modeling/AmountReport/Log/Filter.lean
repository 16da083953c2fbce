import AmountReport.Log.Reader
import AmountReport.Text.Alphanumeric
import AmountReport.Text.Blank
import AmountReport.Text.Lines

/-!
# Log filters

The reader that the program is built with. A filter is a list of directives, each a target and how
much detail its records may have. Of the directives whose target begins that of a record the one
with the longest target decides, of equally long ones the last. A record that no directive names is
not shown.

Written, directives stand between commas: `target=level`, a level alone for all targets, or a target
alone for all levels; a span in square brackets may follow the target or stand in its place. A
directive begins with a letter or digit of any script, a hyphen, a colon, an underscore or a span.

The positions of the parts are found in the directive without its blanks and looked up in the
directive with them. So a blank in front spoils a directive that has a level, and stops the program
if a position comes to lie inside a character. Conditions on fields, in braces within the square
brackets, are left out and refused here.
-/

namespace AmountReport.Log

structure Directive where
  /-- How the targets begin; the empty text begins all. -/
  target : String
  /-- The greatest `Level.detail` shown. -/
  detail : Nat
  /-- Whether it speaks only of what happens in some span. -/
  inSpan : Bool := false
  deriving DecidableEq, Repr

abbrev Filter := List Directive

namespace Directive

/-- The value of a number in decimal, which may have a plus sign. -/
def number? (text : List Char) : Option Nat :=
  let digits := match text with
    | '+' :: rest => rest
    | _ => text
  if digits.isEmpty || !digits.all Char.isDigit then none
  else some (digits.foldl (fun n c => n * 10 + (c.toNat - '0'.toNat)) 0)

/-- The detail that a level stands for: its name, in capitals or not, or its number. -/
def detail? (text : String) : Option Nat :=
  match text.map Char.toLower with
  | "off" => some 0
  | "error" => some Level.error.detail
  | "warn" => some Level.warn.detail
  | "info" => some Level.info.detail
  | "debug" => some Level.debug.detail
  | "trace" => some Level.trace.detail
  | _ => (number? text.toList).filter (· ≤ Level.trace.detail)

/-- Whether a character may begin a directive. -/
def isOpening (c : Char) : Bool :=
  Text.isAlphanumeric c || c = '-' || c = ':' || c = '_'

/-! ## Positions -/

/-- The characters of a text, each with its position in bytes. -/
def positions (text : String) : List (Nat × Char) :=
  go 0 text.toList
where
  go (position : Nat) : List Char → List (Nat × Char)
    | [] => []
    | c :: rest => (position, c) :: go (position + c.utf8Size) rest

/-- The character that a position lies inside of, and where that begins. -/
def around? (text : String) (position : Nat) : Option (Nat × Char) :=
  (positions text).find? fun (first, c) => first < position && position < first + c.utf8Size

/-- What the program says when it stops at a position inside a character. -/
def stopWords (text side : String) (position first : Nat) (c : Char) : String :=
  side ++ " byte index " ++ position.repr ++ " is not a char boundary; it is inside '" ++
    String.ofList (Text.quoteChar c) ++ "' (bytes " ++ first.repr ++ ".." ++
    (first + c.utf8Size).repr ++ ") of `" ++ text ++ "`"

/-- The part of a text between two positions. -/
def slice (text : String) (first last : Nat) : Except Misreading String :=
  match around? text first, around? text last with
  | some (p, c), _ => .error (.stopped (stopWords text "start" first p c))
  | none, some (p, c) => .error (.stopped (stopWords text "end" last p c))
  | none, none =>
    .ok (String.ofList (((positions text).filter fun (p, _) => first ≤ p && p < last).map Prod.snd))

/-! ## Reading -/

/-- How far the reading of a directive has come. -/
inductive Stage
  | start
  /-- In a target, or in a level that stands alone. -/
  | name
  /-- In a span, whose name begins at `first`. -/
  | span (target : String) (first : Nat)
  /-- Behind a span. -/
  | spanned (target : String)
  /-- In a level, which begins at `first`. -/
  | level (target : String) (inSpan : Bool) (first : Nat)

/-- Takes the next character, at a position in the directive without its blanks. -/
def Stage.step (text : String) (stage : Stage) : Nat × Char → Except Misreading Stage
  | (position, c) =>
    match stage with
    | .start =>
      if c = '[' then .ok (.span "" (position + 1))
      else if isOpening c then .ok .name
      else .error .refused
    | .name =>
      if c = '=' then return .level (← slice text 0 position) false (position + 1)
      else if c = '[' then return .span (← slice text 0 position) (position + 1)
      else .ok .name
    | .span target first =>
      if c = ']' then do
        let _ ← slice text first position
        return .spanned target
      else if c = '\x7b' then do
        let _ ← slice text first position
        throw .refused
      else .ok (.span target first)
    | .spanned target =>
      if c = '=' then .ok (.level target true (position + 1)) else .error .refused
    | .level .. => .ok stage

/-- The directive, now that its text is at an end. -/
def Stage.finish (text : String) : Stage → Except Misreading Directive
  | .start | .span .. => .error .refused
  | .name =>
    match detail? text with
    | some detail => .ok ⟨"", detail, false⟩
    | none => .ok ⟨text, Level.trace.detail, false⟩
  | .spanned target => .ok ⟨target, Level.trace.detail, true⟩
  | .level target inSpan first => do
    let level ← slice text first text.utf8ByteSize
    if level.isEmpty then return ⟨target, Level.trace.detail, inSpan⟩
    match detail? level with
    | some detail => return ⟨target, detail, inSpan⟩
    | none => throw .refused

/-- Reads one directive. -/
def read (text : String) : Except Misreading Directive := do
  (← (positions (Text.trim text)).foldlM (Stage.step text) .start).finish text

/-- Whether the directive speaks of a target outside of all spans. -/
def covers (d : Directive) (target : String) : Bool :=
  !d.inSpan && d.target.toList.isPrefixOf target.toList

end Directive

namespace Filter

/-- Reads a filter; one bad directive spoils it. -/
def read (text : String) : Except Misreading Filter :=
  ((Text.splitAt ',' text.toList).filter (!·.isEmpty)).mapM fun part =>
    Directive.read (String.ofList part)

/-- The directive that decides about a target. -/
def deciding? (f : Filter) (target : String) : Option Directive :=
  f.foldl (fun best d =>
    if !d.covers target then best
    else match best with
      | none => some d
      | some b => if b.target.length ≤ d.target.length then some d else some b) none

/-- Whether a record is shown. -/
def shows (f : Filter) (r : Record) : Bool :=
  match f.deciding? r.target with
  | none => false
  | some d => r.level.detail ≤ d.detail

/-- The records that are shown, each on a line. -/
def view (f : Filter) : View := fun r => if f.shows r then some r.line else none

end Filter

/-- The reader that the program is built with. -/
def Reader.ofFilters : Reader where
  read text := Filter.view <$> Filter.read text
  ofDirectives text :=
    match Filter.read text with
    | .ok f => f.view
    | .error _ => fun _ => none

end AmountReport.Log
