import AmountReport.Command.Config
import AmountReport.Utf8

/-!
# Parsers of arguments

How the arguments are read is for a library to say. It gives settings, or an answer: what was asked
for, which is help or the version, or what is wrong with the arguments. With an answer it also ends
the command. Nothing here depends on the rules that it reads by: a parser is any pair of functions,
and what the library says of itself is a proposition about them.
-/

namespace AmountReport.Command

/-- An argument as it comes, which need not be text. -/
abbrev Argument := List UInt8

/-- What is left of a command that is over. -/
structure Exit where
  code : Nat
  /-- The bytes on the standard output. -/
  stdout : List UInt8 := []
  /-- The lines of the log. -/
  log : List String := []
  /-- What the user is told at the end. -/
  message : Option String := none
  deriving DecidableEq, Repr

/-- The text on the standard error output. -/
def Exit.stderr (e : Exit) : String :=
  String.join ((e.log ++ e.message.toList).map (· ++ "\n"))

/-- What a parser has to say where it has no settings to give. -/
inductive Answer
  /-- What was asked for, as it is printed: help, or the version. -/
  | request (text : String)
  /-- What is wrong with the arguments. -/
  | misuse (text : String)
  deriving DecidableEq, Repr

/-- A library for arguments. -/
structure Parser where
  /-- Reads the arguments, the first of which is the path of the program
  (`CliConfig::try_parse_from`). -/
  read : List Argument → Except Answer Config
  /-- How the command ends with an answer (`CliConfig::parse`). -/
  exit : Answer → Exit

/-- What the library says of ending a command: what was asked for goes to the standard output, with
the code 0, and of a misuse nothing does, with the code 2. -/
structure Parser.Promise (parser : Parser) : Prop where
  request : ∀ text, (parser.exit (.request text)).code = 0 ∧
    (parser.exit (.request text)).stdout = Utf8.encode text.toList
  misuse : ∀ text, (parser.exit (.misuse text)).code = 2 ∧
    (parser.exit (.misuse text)).stdout = []

end AmountReport.Command
