import AmountReport.Failure
import AmountReport.Text.Blank
import AmountReport.Text.Quoted

/-!
# Settings of the command

The path of the file to report on and whether to tell more about it. A path that is blank or holds
a NUL is refused before any file is looked for.
-/

namespace AmountReport.Command

/-- The file that is reported on if no other is named. -/
def defaultInput : String := "inputs.txt"

/-- `CliConfig` (config, 12). -/
structure Config where
  input : String := defaultInput
  verbose : Bool := false
  deriving DecidableEq, Repr

/-- Accepts a path as the value of a setting, or says what is wrong with it (`validate_path`,
utils/validation 7-25). -/
def validatePath (field path : String) : Except Failure Unit :=
  if (Text.trim path).isEmpty then
    .error (.invalidSetting field path "Path cannot be empty")
  else if path.toList.contains '\x00' then
    .error (.invalidSetting field path "Path contains null bytes")
  else .ok ()

namespace Config

/-- `CliConfig::validate` (config, 27). -/
def validate (c : Config) : Except Failure Unit := validatePath "input" c.input

/-- The settings as the log shows them. -/
def render (c : Config) : String :=
  "CliConfig \x7b input: " ++ Text.quote c.input ++
    ", verbose: " ++ (if c.verbose then "true" else "false") ++ " \x7d"

end Config

end AmountReport.Command
