import AmountReport.Stream.Fault

/-!
# Failures

Why there is no report, or no whole one. `message` is for the log and `userMessage` for the person
who runs the program; `exitCode` tells a wrong setting from a failed run. They are `ValidatorError`
and its methods (utils/error, 5-49).
-/

namespace AmountReport

inductive Failure
  /-- The file at `path` cannot be read from at all. -/
  | missingInput (path : String) (cause : Fault)
  /-- Reading or writing went wrong. -/
  | io (cause : Fault)
  /-- A setting has a value that cannot be. -/
  | invalidSetting (field value reason : String)
  deriving DecidableEq, Repr, Inhabited

namespace Failure

/-- The fault behind a failure. -/
def cause? : Failure → Option Fault
  | .missingInput _ cause => some cause
  | .io cause => some cause
  | .invalidSetting .. => none

/-- What the log is told (the `Display` form, utils/error 6-22). -/
def message : Failure → String
  | .missingInput path cause => "Cannot open input file " ++ path ++ ": " ++ cause.text
  | .io cause => "IO error: " ++ cause.text
  | .invalidSetting field value reason =>
    "Invalid value for " ++ field ++ ": '" ++ value ++ "' (" ++ reason ++ ")"

/-- What the user is told, by the kind of the fault (`user_friendly_message`, utils/error 26-41). -/
def userMessage : Failure → String
  | .missingInput path cause =>
    match cause.kind with
    | .notFound => "Erro: o arquivo '" ++ path ++ "' não foi encontrado."
    | .permissionDenied => "Erro: sem permissão para abrir o arquivo '" ++ path ++ "'."
    | .invalidInput => "Erro: '" ++ path ++ "' não é um arquivo."
    | _ => "Erro: não foi possível abrir o arquivo '" ++ path ++ "': " ++ cause.text
  | .io cause => "Erro ao ler a entrada: " ++ cause.text
  | .invalidSetting field _ reason => "Erro: argumento '" ++ field ++ "' inválido: " ++ reason

/-- `exit_code` (utils/error, 43-48). -/
def exitCode : Failure → Nat
  | .missingInput .. | .io _ => 1
  | .invalidSetting .. => 2

end Failure

end AmountReport
