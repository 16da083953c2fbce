import AmountReport.Failure
import AmountReport.Report.Classification
import AmountReport.Report.Event
import AmountReport.Stream.Sink
import AmountReport.Stream.Source
import AmountReport.Text.Lines
import AmountReport.Utf8

/-!
# Runs

A run reads its source piece by piece, decodes each piece, and classifies the lines of it in order.
A line that is not blank goes to the validator, then as an event to the log, then as a report line
to the sink, and only when it is written does it count. The first fault ends the run: what was done
before it stays done, nothing after it is. The sink is flushed once, after all input.

This is `ReportEngine::run` (core/report, 40-75), taken apart by its loops: the inner one over the
lines of a piece, and in it what is done for a line, and the outer one over the pieces.
-/

namespace AmountReport

/-- What a run has done so far. -/
structure Progress where
  /-- The number of the latest line, blank lines counted, in a word of thirty-two bits. -/
  lineNumber : Int32 := 0
  summary : Summary := {}
  sink : Sink
  /-- The texts put to the validator, the latest first. -/
  asked : List String := []
  /-- The events, the latest first. -/
  events : List Event := []

/-- A run that a fault has ended. -/
structure Halted where
  fault : Fault
  progress : Progress

/-- All that can be seen of a run that is over. -/
structure Run where
  outcome : Except Failure Summary
  /-- The bytes written. -/
  output : List UInt8
  flushes : Nat
  /-- The texts put to the validator. -/
  asked : List String
  events : List Event

namespace Progress

/-- Bytes of a report line, its line end included. -/
def reportLine (entry : Entry) : List UInt8 :=
  Utf8.encode (entry.render.toList ++ ['\n'])

/-- Classifies one line and reports it: one round of the inner loop (core/report, 55-70). -/
def line (judge : Validator) (p : Progress) (raw : String) : Except Halted Progress :=
  let (found, asked) := (classifyM judge.recorded raw).run p.asked
  let p := { p with lineNumber := p.lineNumber + 1, asked := asked }
  match found with
  | none => .ok { p with summary := p.summary.skip }
  | some entry =>
    let p := { p with events := .classified p.lineNumber entry :: p.events }
    match p.sink.write (reportLine entry) with
    | (some fault, sink) => .error ⟨fault, { p with sink := sink }⟩
    | (none, sink) => .ok { p with sink := sink, summary := p.summary.record entry.verdict }

/-- Reports the lines of one piece, if it is UTF-8 (core/report, 50-70). -/
def piece (judge : Validator) (p : Progress) (bytes : List UInt8) : Except Halted Progress :=
  match Utf8.decode bytes with
  | .error e => .error ⟨⟨.invalidData, e.message⟩, p⟩
  | .ok text => (Text.pieceLines text).foldlM (fun p raw => p.line judge (String.ofList raw)) p

/-- Reports the pieces of a source up to its end or to the first fault: the outer loop (core/report,
45-71). -/
def consume (judge : Validator) (p : Progress) (source : Source) : Except Halted Progress :=
  match _read : source.readPiece [] with
  | (.error fault, _) => .error ⟨fault, p⟩
  | (.ok [], _) => .ok p
  | (.ok (b :: bytes), rest) =>
    match p.piece judge (b :: bytes) with
    | .error halted => .error halted
    | .ok p => consume judge p rest
termination_by source.size
decreasing_by exact Source.size_lt_of_readPiece _read

/-- The run, now that it is over. -/
def close (p : Progress) (outcome : Except Failure Summary) : Run :=
  ⟨outcome, p.sink.bytes, p.sink.flushes, p.asked.reverse, p.events.reverse⟩

/-- Flushes the sink after the last piece (core/report, 73). -/
def finish (p : Progress) : Run :=
  match p.sink.flush with
  | (some fault, sink) => { p with sink := sink }.close (.error (.io fault))
  | (none, sink) => { p with sink := sink }.close (.ok p.summary)

end Progress

/-- Reports on a source (`ReportEngine::run`). -/
def run (judge : Validator) (source : Source) (sink : Sink) : Run :=
  match Progress.consume judge { sink := sink } source with
  | .error halted => halted.progress.close (.error (.io halted.fault))
  | .ok p => p.finish

end AmountReport
