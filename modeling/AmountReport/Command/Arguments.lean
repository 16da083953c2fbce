import AmountReport.Command.Parser
import AmountReport.Text.Lines
import AmountReport.Text.Terminal

/-!
# Arguments

The parser that the command is built with. The command takes one operand, the path, and three
options, each long or as a letter, of which letters may be joined: verbose, help and version. After
`--` all arguments are operands, and so is a lone `-`. Arguments are read from left to right, and
the first thing that ends the reading decides: a request for help or for the version, or a misuse.
An operand has to be UTF-8, which is looked at when an option follows it or when the arguments end.
What a message quotes of the arguments is stripped of what a terminal would obey.
-/

namespace AmountReport.Command

/-- Why arguments are no settings. -/
inductive Misuse
  /-- An option that does not exist, or an operand too many. -/
  | unknown (argument : String)
  /-- The option to be verbose, given again. -/
  | repeated
  /-- A value for an option that takes none. -/
  | surplus (value option : String)
  /-- An operand that is not UTF-8. -/
  | notText
  deriving DecidableEq, Repr

/-- What ends a command before it begins. -/
inductive Stop
  /-- Help on the command, which is called `program`. -/
  | help (program : String)
  | version
  | misuse (cause : Misuse)
  deriving DecidableEq, Repr

/-- The name of the command. -/
def commandName : String := "currency-validator"

/-- What the user is told, in full; only its first line is shown. `quote` prepares what was
given. -/
def Misuse.text (quote : String → String) : Misuse → String
  | .unknown argument => "unexpected argument '" ++ quote argument ++ "' found"
  | .repeated => "the argument '--verbose' cannot be used multiple times"
  | .surplus value option =>
    "unexpected value '" ++ quote value ++ "' for '" ++ quote option ++
      "' found; no more were expected"
  | .notText => "invalid UTF-8 was detected in one or more arguments"

/-- The text up to its first line end, which is a line feed or a carriage return before one. -/
def firstLine (s : String) : String :=
  let line := s.toList.takeWhile (· ≠ '\n')
  String.ofList (if line.length < s.length then Text.dropFinal '\r' line else line)

namespace Stop

def helpText (program : String) : String :=
  "Checks each line of a file against the Brazilian currency amount format\n\n" ++
  "Usage: " ++ program ++ " [OPTIONS] [INPUT]\n\n" ++
  "Arguments:\n" ++
  "  [INPUT]  Text file with one amount per line [default: " ++ defaultInput ++ "]\n\n" ++
  "Options:\n" ++
  "  -v, --verbose  Enable verbose output\n" ++
  "  -h, --help     Print help\n" ++
  "  -V, --version  Print version\n"

/-- The words for the user. `quote` prepares what was given. -/
def text (quote : String → String) : Stop → String
  | .help program => helpText (quote program)
  | .version => commandName ++ " 0.1.0\n"
  | .misuse cause => firstLine ("error: " ++ cause.text quote)

/-- The words for the user, as a text. -/
def message (s : Stop) : String := s.text (Text.dropControls .ends)

/-- The words for the user, as they are printed. -/
def printed (s : Stop) : String := s.text (Text.dropControls .pauses)

def answer (s : Stop) : Answer :=
  match s with
  | .help _ | .version => .request s.printed
  | .misuse _ => .misuse s.printed

def exitCode : Stop → Nat
  | .help _ | .version => 0
  | .misuse _ => 2

end Stop

/-- An argument in a message. -/
def shown (argument : Argument) : String := String.ofList (Utf8.decodeLossy argument)

inductive Flag
  | verbose | help | version
  deriving DecidableEq, Repr

namespace Flag

def ofName? : String → Option Flag
  | "verbose" => some .verbose
  | "help" => some .help
  | "version" => some .version
  | _ => none

def ofLetter? : Char → Option Flag
  | 'v' => some .verbose
  | 'h' => some .help
  | 'V' => some .version
  | _ => none

end Flag

/-- What is read of the arguments. -/
structure Seen where
  operand : Option Argument := none
  verbose : Bool := false

namespace Seen

/-- The settings that were read, if the operand is text. -/
def config (s : Seen) : Except Stop Config :=
  match s.operand with
  | none => .ok ⟨defaultInput, s.verbose⟩
  | some operand =>
    match Utf8.decode operand with
    | .ok text => .ok ⟨String.ofList text, s.verbose⟩
    | .error _ => .error (.misuse .notText)

/-- Takes an option, once what was read before it proves sound. -/
def flag (program : String) (s : Seen) (f : Flag) : Except Stop Seen := do
  let _ ← s.config
  match f with
  | .verbose => if s.verbose then .error (.misuse .repeated) else .ok { s with verbose := true }
  | .help => .error (.help program)
  | .version => .error .version

/-- Takes an operand. -/
def take (s : Seen) (argument : Argument) : Except Stop Seen :=
  match s.operand with
  | none => .ok { s with operand := some argument }
  | some _ => .error (.misuse (.unknown (shown argument)))

/-- Takes what follows two dashes: a name, and a value after an equals sign. -/
def long (program : String) (s : Seen) (body : Argument) : Except Stop Seen :=
  let name := "--" ++ shown (body.takeWhile (· ≠ '='.toUInt8))
  let flag? := match Utf8.decode (body.takeWhile (· ≠ '='.toUInt8)) with
    | .ok text => Flag.ofName? (String.ofList text)
    | .error _ => none
  match flag?, body.dropWhile (· ≠ '='.toUInt8) with
  | none, _ => .error (.misuse (.unknown name))
  | some f, [] => s.flag program f
  | some _, _ :: value => .error (.misuse (.surplus (shown value) name))

/-- Takes what follows one dash: letters. -/
def short (program : String) (s : Seen) (body : Argument) : Except Stop Seen := do
  let size := match Utf8.decode body with
    | .ok _ => body.length
    | .error e => e.index
  let letters := Utf8.decodeLossy (body.take size)
  let s ← letters.foldlM (fun s c =>
    match Flag.ofLetter? c with
    | some f => s.flag program f
    | none => .error (.misuse (.unknown (String.ofList ['-', c])))) s
  if size < body.length then
    .error (.misuse (.unknown ("-" ++ shown (body.drop size))))
  else
    .ok s

/-- Reads the arguments; `0x2D` is a dash. -/
def read (program : String) (s : Seen) : List Argument → Except Stop Seen
  | [] => .ok s
  | [0x2D, 0x2D] :: rest => rest.foldlM take s
  | (0x2D :: 0x2D :: body) :: rest => do (← s.long program body).read program rest
  | (0x2D :: b :: body) :: rest => do (← s.short program (b :: body)).read program rest
  | argument :: rest => do (← s.take argument).read program rest

end Seen

/-- What the command is called, by the path that it was started with: the last name on the path,
if it is a name and text. -/
def programName (path : Argument) : String :=
  let names := (Text.splitAt '/'.toUInt8 path).filter fun name => name ≠ [] ∧ name ≠ ['.'.toUInt8]
  match names.getLast? with
  | none => commandName
  | some name =>
    match Utf8.decode name with
    | .error _ | .ok ['.', '.'] => commandName
    | .ok text => String.ofList text

/-- The settings that arguments give, the first of which is the path of the program. -/
def Config.ofArguments (arguments : List Argument) : Except Stop Config := do
  (← Seen.read (programName (arguments.headD [])) {} arguments.tail).config

/-- The parser that the command is built with. -/
def Parser.ofArguments : Parser where
  read arguments := (Config.ofArguments arguments).mapError Stop.answer
  exit
    | .request text => ⟨0, Utf8.encode text.toList, [], none⟩
    | .misuse text => ⟨2, [], [], some text⟩

end AmountReport.Command
