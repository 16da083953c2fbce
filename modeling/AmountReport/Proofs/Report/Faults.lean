import AmountReport.Proofs.Report.Intake

/-!
# Which fault a run reports

A run has things to do in an order: piece after piece, it puts the piece together, decodes it, and
writes the report lines of it; when all is written it flushes. Each of these deeds may go wrong for a
reason of its own, and the first that does ends the run.

Main statement: the outcome is the first fault of the deeds, or a summary of all of the input if there
is none, and the sink is flushed, once, exactly if all deeds before the flush go well
(`run_ends_with_first_fault`).
-/

namespace AmountReport

/-- One of the things that a run has to do. -/
inductive Deed
  /-- Puts together the next piece, or finds the end of the input, unless it meets a fault. -/
  | read (met : Option Fault)
  /-- Decodes a piece. -/
  | decode (piece : List UInt8)
  /-- Writes a report line. -/
  | write (line : List UInt8)
  | flush

namespace Deed

/-- What goes wrong with it, the sink being as it is when the deed is done. -/
def fault? (sink : Sink) : Deed → Option Fault
  | .read met => met
  | .decode piece =>
    match Utf8.decode piece with
    | .ok _ => none
    | .error e => some ⟨.invalidData, e.message⟩
  | .write line => if sink.Fits line then none else some .noRoom
  | .flush => sink.flushFault

/-- What it puts into the sink. -/
def bytes : Deed → List UInt8
  | .write line => line
  | _ => []

/-- What is to do about a piece: its report lines are written if it can be decoded. -/
def ofPiece (judge : Validator) (piece : List UInt8) : List Deed :=
  .read none :: .decode piece ::
    match Utf8.decode piece with
    | .ok text =>
      (Text.trimmed (Text.pieceLines text)).map fun t => .write (Progress.reportLine (judge.entry t))
    | .error _ => []

/-- The first fault in order, each deed being done on the sink that those before it leave. -/
def firstFault (sink : Sink) : List Deed → Option Fault
  | [] => none
  | deed :: more => (deed.fault? sink).or (firstFault (sink.store deed.bytes) more)

end Deed

/-- What is to do about an input: one piece after the other, up to its end or the fault that ends it,
and then the flush. -/
def Cut.deeds (judge : Validator) (cut : Cut) : List Deed :=
  cut.pieces.flatMap (Deed.ofPiece judge) ++ [.read cut.fault, .flush]

/-- What is to do about a source. -/
def Source.deeds (judge : Validator) (source : Source) : List Deed :=
  (Cut.of [] source.arrivals).deeds judge

/-- Nothing goes wrong before the flush: no fault of reading but interruptions, each piece of the data
UTF-8, and room for all report lines. -/
structure Source.Reportable (judge : Validator) (source : Source) (sink : Sink) : Prop where
  read : ∀ fault, .fault fault ∈ source → fault.kind = .interrupted
  decoded : ∀ piece ∈ Text.pieces lineFeed source.data, Utf8.isValid piece = true
  written : sink.Fits ((source.deeds judge).flatMap Deed.bytes)

section
variable {judge : Validator} {sink : Sink}

namespace Deed

theorem firstFault_writes (texts : List String) (more : List Deed) :
    firstFault sink ((texts.map fun t => .write (Progress.reportLine (judge.entry t))) ++ more) =
      if sink.Fits (report judge texts) then firstFault (sink.store (report judge texts)) more
      else some .noRoom := by
  induction texts generalizing sink with
  | nil =>
    rw [if_pos (show sink.Fits (report judge []) from Sink.fits_nil sink)]
    exact congrArg (firstFault · more) (Sink.store_nil sink).symm
  | cons t texts ih =>
    rw [List.map_cons, List.cons_append, firstFault, ih, report_cons, Sink.store_append]
    by_cases first : sink.Fits (Progress.reportLine (judge.entry t))
    · by_cases later : (sink.store (Progress.reportLine (judge.entry t))).Fits (report judge texts)
      · simp [fault?, bytes, first, later, Sink.fits_append]
      · simp [fault?, bytes, first, later, Sink.fits_append]
    · simp [fault?, first, Sink.fits_append]

/-- **The first fault, by what the input brings**: want of room, a fault of the input, or one of the
flush. -/
theorem firstFault_deeds (pieces : List (List UInt8)) (fault : Option Fault) :
    firstFault sink (Cut.deeds judge ⟨pieces, fault⟩) =
      if sink.Fits (report judge (Intake.of fault pieces).texts) then
        (Intake.of fault pieces).fault.or sink.flushFault
      else some .noRoom := by
  induction pieces generalizing sink with
  | nil =>
    rw [if_pos (show sink.Fits (report judge (Intake.of fault []).texts) from Sink.fits_nil sink)]
    cases fault <;> simp [Cut.deeds, firstFault, fault?, bytes, Intake.of, Sink.store]
  | cons piece pieces ih =>
    have first : Cut.deeds judge ⟨piece :: pieces, fault⟩ =
        ofPiece judge piece ++ Cut.deeds judge ⟨pieces, fault⟩ := by
      simp [Cut.deeds]
    have begun : (Deed.read none).fault? sink = none := rfl
    have silent : (Deed.read none).bytes = [] ∧ (Deed.decode piece).bytes = [] := ⟨rfl, rfl⟩
    rw [first, ofPiece, List.cons_append, List.cons_append, firstFault, begun, Option.none_or,
      silent.1, Sink.store_nil, firstFault, silent.2, Sink.store_nil]
    cases text : Utf8.decode piece with
    | error e =>
      have nothing : sink.Fits (report judge (Intake.texts ⟨[], some ⟨.invalidData, e.message⟩⟩)) :=
        Sink.fits_nil sink
      rw [Intake.of_cons_error text]
      simp only [text, fault?, if_pos nothing, Option.some_or]
    | ok text' =>
      simp only [text, fault?, Option.none_or]
      rw [firstFault_writes, ih, Intake.texts_of_cons_ok text, report_append,
        Intake.of_cons_ok text]
      by_cases here : sink.Fits (report judge (Text.trimmed (Text.pieceLines text')))
      · rw [if_pos here]
        simp only [Sink.fits_append, here, true_and]
        rfl
      · rw [if_neg here, if_neg fun h => here (Sink.fits_append.1 h).1]

/-- What the deeds write is the report, if all pieces are UTF-8. -/
theorem bytes_deeds {pieces : List (List UInt8)} (fault : Option Fault)
    (valid : ∀ piece ∈ pieces, Utf8.isValid piece = true) :
    (Cut.deeds judge ⟨pieces, fault⟩).flatMap bytes =
      report judge (Intake.of fault pieces).texts := by
  induction pieces with
  | nil => rfl
  | cons piece pieces ih =>
    obtain ⟨text, rfl⟩ := Utf8.isValid_iff.1 (valid piece List.mem_cons_self)
    rw [Intake.texts_of_cons_ok (Utf8.decode_encode text), report_append,
      ← ih fun p hp => valid p (List.mem_cons_of_mem _ hp)]
    simp [Cut.deeds, ofPiece, Utf8.decode_encode, bytes, List.flatMap_map, report]

end Deed

variable {source : Source}

theorem firstFault_eq (gapless : source.Gapless) :
    Deed.firstFault sink (source.deeds judge) =
      if sink.Fits (report judge source.intake.texts) then source.intake.fault.or sink.flushFault
      else some .noRoom := by
  rw [Source.deeds, ← Source.cut_of_gapless gapless]
  exact Deed.firstFault_deeds source.cut.pieces source.cut.fault

/-- **The outcome is the first fault of the deeds**, or a summary of the lines of the input. -/
theorem outcome_run (gapless : source.Gapless) :
    (run judge source sink).outcome =
      match Deed.firstFault sink (source.deeds judge) with
      | none => .ok (.of judge source.intake.lines)
      | some fault => .error (.io fault) := by
  rw [firstFault_eq gapless]
  by_cases fits : sink.Fits (report judge source.intake.texts)
  · rw [run_eq_of_fits judge fits, if_pos fits]
    rfl
  · obtain ⟨room, hr, small⟩ := Sink.not_fits_iff.1 fits
    obtain ⟨k, -, -, ended⟩ := run_eq_of_not_fits judge hr small
    rw [ended, if_neg fits]

theorem reportable_iff (gapless : source.Gapless) :
    source.Reportable judge sink ↔
      sink.Fits (report judge source.intake.texts) ∧ source.intake.fault = none := by
  rw [Source.fault_intake_eq_none_iff gapless]
  have written (readable : ∀ fault, .fault fault ∈ source → fault.kind = .interrupted)
      (valid : ∀ piece ∈ Text.pieces lineFeed source.data, Utf8.isValid piece = true) :
      (source.deeds judge).flatMap Deed.bytes = report judge source.intake.texts := by
    rw [Source.deeds, ← Source.cut_of_gapless gapless, Source.intake,
      Source.cut_of_readable gapless readable, Deed.bytes_deeds none valid]
  constructor
  · rintro ⟨readable, valid, fits⟩
    rw [written readable valid] at fits
    exact ⟨fits, readable, valid⟩
  · rintro ⟨fits, readable, valid⟩
    exact ⟨readable, valid, by rwa [written readable valid]⟩

theorem firstFault_eq_none_iff (gapless : source.Gapless) :
    Deed.firstFault sink (source.deeds judge) = none ↔
      source.Reportable judge sink ∧ sink.flushFault = none := by
  rw [firstFault_eq gapless, reportable_iff gapless]
  split
  · rename_i fits
    simp [fits]
  · rename_i small
    simp [small]

/-- The sink is flushed once more if nothing goes wrong before. -/
theorem flushes_run (gapless : source.Gapless) [Decidable (source.Reportable judge sink)] :
    (run judge source sink).flushes =
      if source.Reportable judge sink then sink.flushes + 1 else sink.flushes := by
  simp only [reportable_iff gapless]
  by_cases fits : sink.Fits (report judge source.intake.texts)
  · rw [run_eq_of_fits judge fits]
    cases sound : source.intake.fault <;> simp [Intake.run, sound, fits]
  · obtain ⟨room, hr, small⟩ := Sink.not_fits_iff.1 fits
    obtain ⟨k, -, -, ended⟩ := run_eq_of_not_fits judge hr small
    rw [ended, if_neg fun h => fits h.1]

end

/-- **How a run ends.** It succeeds exactly if nothing goes wrong with the input, its report has room and
the sink can be flushed. Otherwise it fails with the first fault of what it has to do, in order: for each
piece, putting it together, decoding it, and writing its lines; and behind all pieces the flush. The sink
is flushed once if nothing goes wrong before, and else not at all. A summary counts all lines of the
input. -/
theorem run_ends_with_first_fault (judge : Validator) {source : Source} (gapless : source.Gapless)
    (room : Option Nat) (flushFault : Option Fault) :
    let sink : Sink := { room := room, flushFault := flushFault }
    let r := run judge source sink
    ((∃ summary, r.outcome = .ok summary) ↔
        source.Reportable judge sink ∧ flushFault = none) ∧
      (∀ failure, r.outcome = .error failure ↔
        ∃ fault, failure = .io fault ∧ Deed.firstFault sink (source.deeds judge) = some fault) ∧
      (r.flushes = 1 ↔ source.Reportable judge sink) ∧
      (r.flushes = 0 ↔ ¬ source.Reportable judge sink) ∧
      ∀ summary, r.outcome = .ok summary →
        ∃ text, source.data = Utf8.encode text ∧ summary = .of judge (Text.lines text) := by
  classical
  intro sink r
  have outcome : r.outcome = _ := outcome_run gapless
  have none_iff : Deed.firstFault sink (source.deeds judge) = none ↔
      source.Reportable judge sink ∧ flushFault = none := firstFault_eq_none_iff gapless
  have flushes : r.flushes = if source.Reportable judge sink then 0 + 1 else 0 :=
    flushes_run gapless
  refine ⟨?_, ?_, ?_, ?_, ?_⟩
  · rw [← none_iff, outcome]
    cases Deed.firstFault sink (source.deeds judge) <;> simp
  · intro failure
    rw [outcome]
    cases Deed.firstFault sink (source.deeds judge) <;> simp [eq_comm]
  · rw [flushes]
    split <;> simp [*]
  · rw [flushes]
    split <;> simp [*]
  · intro summary ok
    obtain ⟨-, sound, rfl⟩ := run_of_outcome_ok ok
    obtain ⟨text, data, intake⟩ := Source.exists_text gapless sound
    exact ⟨text, data, by rw [intake]⟩

/-- Faults of all four kinds: the first piece is no UTF-8 behind a line of it, and that is met before the
fault of reading, the want of room and the fault of the flush. -/
theorem run_ends_with_invalid_piece :
    let source : Source :=
      [.data [0x31], .fault (.ofErrno 4), .data [0x0D, 0xFF, 0x0A, 0x32], .fault (.ofErrno 5)]
    let sink : Sink := { room := some 3, flushFault := some (.ofErrno 28) }
    let fault : Fault := ⟨.invalidData, "invalid utf-8 sequence of 1 bytes from index 2"⟩
    source.Gapless ∧ Deed.firstFault sink (source.deeds (· == "1")) = some fault ∧
      (run (· == "1") source sink).outcome = .error (.io fault) := by
  intro source sink fault
  have gapless : source.Gapless := by decide
  have first : Deed.firstFault sink (source.deeds (· == "1")) = some fault := by decide
  obtain ⟨-, error, -⟩ :=
    run_ends_with_first_fault (· == "1") gapless (some 3) (some (.ofErrno 28))
  exact ⟨gapless, first, (error (.io fault)).2 ⟨fault, rfl, first⟩⟩

end AmountReport
