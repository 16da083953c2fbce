import AmountReport.Text.Printable
import AmountReport.Utf8

/-!
# Text for a terminal

A terminal obeys some characters instead of showing them. `showControls` writes those that a log
message may carry as escapes, so that they can be read and do nothing; `dropControls` leaves out
control characters and whole escape sequences. Both let line ends and tabs pass in plain text.

An escape character opens a sequence, also where another one is unfinished. A short sequence ends
with its first character from the digit zero on, a control sequence with its first from the at sign
on, a string to a device or to nobody with a string terminator, a command to the operating system
with a bell. Cancel and substitute end all of them. Layout inside a short or a control sequence is
kept, and an `Interruption` says what becomes of the sequence.
-/

namespace AmountReport.Text

/-- Shows one character of a log message: bell, backspace, form feed, escape and delete by two
hexadecimal digits, the second control block by its code point, all else as it is. -/
def showControl (c : Char) : List Char :=
  if c = '\x07' then "\\x07".toList
  else if c = '\x08' then "\\x08".toList
  else if c = '\x0c' then "\\x0c".toList
  else if c = '\x1b' then "\\x1b".toList
  else if c = '\x7f' then "\\x7f".toList
  else if 0x80 ≤ c.toNat ∧ c.toNat ≤ 0x9F then hexEscape c
  else [c]

/-- A log message with the characters that a terminal would obey written as escapes. -/
def showControls (s : String) : String :=
  String.ofList (s.toList.flatMap showControl)

/-- A sequence of which the end is still to come. -/
inductive Unfinished
  /-- an escape character -/
  | escape
  /-- an escape character and characters that choose among the short sequences -/
  | choice
  /-- a control sequence -/
  | control
  deriving DecidableEq, Repr

/-- What was read of the head of a device control string. -/
inductive Head
  | start | parameters | intermediates
  deriving DecidableEq, Repr

/-- Where a reader of terminal text stands. -/
inductive Terminal
  /-- in plain text, which may stand in the midst of an unfinished sequence -/
  | text (around : Option Unfinished)
  /-- inside a sequence -/
  | sequence (s : Unfinished)
  /-- inside a command to the operating system, which a bell ends -/
  | command
  /-- inside a device control string, before its body -/
  | device (head : Head)
  /-- inside a string that a string terminator ends -/
  | string
  deriving DecidableEq, Repr

/-- What layout does to an unfinished sequence. -/
inductive Interruption
  /-- The sequence is given up. -/
  | ends
  /-- The sequence goes on at the next control character, unless a character beyond ASCII comes
  before. -/
  | pauses
  deriving DecidableEq, Repr

/-- Whether a control character lays out text instead of driving the terminal. -/
def isLayout (c : Char) : Bool :=
  c = '\t' || c = '\n' || c = '\x0c' || c = '\r'

/-- Whether a character is one of the plain ones that sequences are made of. -/
def isPlain (c : Char) : Bool := ' ' ≤ c && c ≤ '~'

/-- Whether plain text keeps a character: it drops delete and the first control block, except for
layout. -/
def isKept (c : Char) : Bool := isPlain c || isLayout c || '\x7f' < c

/-- Whether the bytes of a character hold `0x9C`, the string terminator in a single byte. -/
def holdsTerminator (c : Char) : Bool := (Utf8.encode [c]).contains 0x9C

namespace Terminal

/-- After an escape character: what a plain character opens or ends. -/
def introduce (c : Char) : Terminal :=
  if c = '[' then .sequence .control
  else if c = ']' then .command
  else if c = 'P' then .device .start
  else if c = 'X' || c = '^' || c = '_' then .string
  else if c < '0' then .sequence .choice
  else .text none

/-- Where a plain character leads in an unfinished sequence. -/
def advance (s : Unfinished) (c : Char) : Terminal :=
  match s with
  | .escape => introduce c
  | .choice => if c < '0' then .sequence .choice else .text none
  | .control => if c < '@' then .sequence .control else .text none

/-- Where a plain character leads in the head of a device control string. -/
def advanceHead (head : Head) (c : Char) : Terminal :=
  if c < '0' then .device .intermediates
  else match head with
    | .start => if c < '@' then .device .parameters else .string
    | .parameters => if c < '<' then .device .parameters else .string
    | .intermediates => .string

/-- In plain text: a character that is not kept takes up the sequence around the text. -/
def readText (around : Option Unfinished) (c : Char) : Terminal × Bool :=
  if isKept c then (.text (if '\x7f' < c then none else around), true)
  else (match around with
    | some s => .sequence s
    | none => .text none, false)

/-- In an unfinished sequence: layout interrupts it and is kept, a plain character leads on, all
else is ignored. -/
def readSequence (i : Interruption) (s : Unfinished) (c : Char) : Terminal × Bool :=
  if isLayout c then
    (.text (match i with
      | .ends => none
      | .pauses => some s), true)
  else if isPlain c then (advance s c, false)
  else (.sequence s, false)

/-- Reads one character: the next state, and whether the character is kept. -/
def read (i : Interruption) (state : Terminal) (c : Char) : Terminal × Bool :=
  if c = '\x1b' then (.sequence .escape, false)
  else if c = '\x18' || c = '\x1a' then (.text none, false)
  else match state with
    | .text around => readText around c
    | .sequence s => readSequence i s c
    | .command => (if c = '\x07' then .text none else .command, false)
    | .device head => (if isPlain c then advanceHead head c else .device head, false)
    | .string => (if holdsTerminator c then .text none else .string, false)

/-- The characters that are kept of a text. -/
def kept (i : Interruption) (state : Terminal) : List Char → List Char
  | [] => []
  | c :: rest =>
    match state.read i c with
    | (next, true) => c :: next.kept i rest
    | (next, false) => next.kept i rest

end Terminal

/-- A text without control characters and escape sequences. A sequence that is not complete takes
the rest of the text with it. -/
def dropControls (i : Interruption) (s : String) : String :=
  String.ofList ((Terminal.text none).kept i s.toList)

end AmountReport.Text
