import AmountReport.Amount.Pattern
import AmountReport.Command.Arguments
import AmountReport.Log.Filter
import AmountReport.Report.FileRun

/-!
# The command

From arguments to an exit code, what stands on the standard output, and what is told on the standard
error output: log records that the log shows, and after them a message for the user if there is no
whole report. The report goes to the standard output as far as it was written.

The libraries that read the arguments and the setting of the log filter are parameters
(`Libraries.execute`). `execute` is the command with the libraries that it is built with.
-/

namespace AmountReport.Command

/-- What the command itself tells the log. -/
inductive Notice
  | configured (config : Config)
  | refused (failure : Failure)
  | failed (failure : Failure)
  deriving DecidableEq, Repr

namespace Notice

/-- The part of the program that speaks. -/
def target : String := "currency_validator"

def record : Notice → Log.Record
  | .configured config => ⟨.debug, target, "CLI config: " ++ config.render, []⟩
  | .refused failure =>
    ⟨.error, target, "Configuration validation failed: " ++ failure.message, []⟩
  | .failed failure => ⟨.error, target, "Report failed: " ++ failure.message, []⟩

end Notice

/-- The view of the log that is set, or one of the command's own if none is set or the setting is
refused (`init_cli_logger`, utils/logger 4-25). An error is what is said by a library that stops the
program. -/
def openLog (reader : Log.Reader) (setting : Option String) (verbose : Bool) :
    Except String Log.View :=
  match setting.map reader.read with
  | some (.ok view) => .ok view
  | some (.error (.stopped words)) => .error words
  | some (.error .refused) | none =>
    .ok (reader.ofDirectives (Notice.target ++ if verbose then "=debug" else "=warn"))

/-- The exit code of a program that is stopped. -/
def stopCode : Nat := 101

/-- Runs the command with settings, once the log is open (`main`, 11-29). -/
def perform (view : Log.View) (opener : Opener) (config : Config) : Exit :=
  let start := (Notice.configured config).record
  match config.validate with
  | .error failure =>
    ⟨failure.exitCode, [], [start, (Notice.refused failure).record].filterMap view,
      some failure.userMessage⟩
  | .ok () =>
    let report := runFile Amount.isValid opener config.input {}
    let records := start :: report.events.map Event.record
    match report.outcome with
    | .ok _ => ⟨0, report.output, records.filterMap view, none⟩
    | .error failure =>
      ⟨failure.exitCode, report.output,
        (records ++ [(Notice.failed failure).record]).filterMap view, some failure.userMessage⟩

/-- The libraries that a command is built with. -/
structure Libraries where
  parser : Parser
  log : Log.Reader

/-- Runs the command (`main`, 6-29). `setting` is the setting of the log filter, if there is one that is
text, and `opener` opens files. -/
def Libraries.execute (libraries : Libraries) (setting : Option String) (opener : Opener)
    (arguments : List Argument) : Exit :=
  match libraries.parser.read arguments with
  | .error answer => libraries.parser.exit answer
  | .ok config =>
    match openLog libraries.log setting config.verbose with
    | .error words => ⟨stopCode, [], [], some words⟩
    | .ok view => perform view opener config

/-- The libraries that the command is built with. -/
def Libraries.own : Libraries := ⟨.ofArguments, .ofFilters⟩

/-- Runs the command with its own libraries. -/
def execute (setting : Option String) (opener : Opener) (arguments : List Argument) : Exit :=
  Libraries.own.execute setting opener arguments

end AmountReport.Command
