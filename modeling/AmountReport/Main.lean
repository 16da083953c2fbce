import AmountReport.Command.Program

/-!
# The program

Reads the arguments, the setting of the log filter and the file, runs the command, and prints what
it says.
-/

namespace AmountReport

/-- The fault behind an error of the system. -/
def Fault.ofSystemError : IO.Error → Fault
  | .noFileOrDirectory _ n _ | .permissionDenied _ n _ | .invalidArgument _ n _
  | .alreadyExists _ n _ | .inappropriateType _ n _ | .resourceExhausted _ n _
  | .noSuchThing _ n _ | .interrupted _ n _ | .otherError n _ | .resourceBusy n _
  | .resourceVanished n _ | .unsupportedOperation n _ | .hardwareFault n _
  | .unsatisfiedConstraints n _ | .illegalOperation n _ | .protocolError n _
  | .timeExpired n _ => .ofErrno n.toNat
  | .unexpectedEof => .ofKind .unexpectedEof
  | .userError text => ⟨.other, text⟩

/-- Opens a path of the system's. -/
def openPath (path : String) : IO (Except Fault Opened) := do
  try
    let resolved ← IO.FS.realPath path
    match (← resolved.metadata).type with
    | .file => return .ok (.file (← IO.FS.readBinFile path).toList)
    | _ => return .ok .other
  catch e => return .error (.ofSystemError e)

end AmountReport

open AmountReport Command in
def main (arguments : List String) : IO UInt32 := do
  let arguments := (commandName :: arguments).map fun a => Utf8.encode a.toList
  let setting ← IO.getEnv "RUST_LOG"
  let opened ← match Config.ofArguments arguments with
    | .ok config => openPath config.input
    | .error _ => pure (.ok .other)
  let e := execute setting (fun _ => opened) arguments
  let stdout ← IO.getStdout
  stdout.write ⟨e.stdout.toArray⟩
  stdout.flush
  (← IO.getStderr).putStr e.stderr
  return UInt32.ofNat e.code
