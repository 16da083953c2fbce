import AmountReport.Proofs.Report.Lines
import AmountReport.Proofs.Utf8.Decoding

/-!
# Runs in closed form

What a run gets from its source is an intake: some lines, and behind them the fault that ends the input
early, if there is one. Whether that is a fault of reading or bytes that are no UTF-8 makes no
difference, and neither does where the pieces end (`follow_eq_take`). What comes of an intake then
depends on the room in the sink alone.

Main statements: if the whole report has room, the run is `Intake.run` (`run_eq_of_fits`); if not, it
is that run up to the first report line that finds no room (`run_eq_of_not_fits`).
-/

namespace AmountReport

/-- The lines that an input brings, and the fault behind them. -/
structure Intake where
  lines : List (List Char)
  fault : Option Fault

namespace Intake

/-- The lines of pieces up to the first that is no UTF-8; `fault` is what comes behind the pieces. -/
def of (fault : Option Fault) : List (List UInt8) → Intake
  | [] => ⟨[], fault⟩
  | piece :: more =>
    match Utf8.decode piece with
    | .error e => ⟨[], some ⟨.invalidData, e.message⟩⟩
    | .ok text => ⟨Text.pieceLines text ++ (of fault more).lines, (of fault more).fault⟩

/-- The lines that are not blank, trimmed. -/
def texts (i : Intake) : List String := Text.trimmed i.lines

end Intake

/-- What a run gets from a source. -/
def Source.intake (source : Source) : Intake := .of source.cut.fault source.cut.pieces

/-- The events of lines of which the first has the number behind `n`. -/
def Event.ofLines (judge : Validator) (n : Int32) : List (List Char) → List Event
  | [] => []
  | line :: more =>
    (classify judge (String.ofList line)).toList.map (.classified (n + 1)) ++
      ofLines judge (n + 1) more

/-- The run on an intake whose whole report has room. -/
def Intake.run (judge : Validator) (i : Intake) (sink : Sink) : Run where
  outcome :=
    match i.fault.or sink.flushFault with
    | none => .ok (.of judge i.lines)
    | some fault => .error (.io fault)
  output := sink.bytes ++ report judge i.texts
  flushes := if i.fault.isNone then sink.flushes + 1 else sink.flushes
  asked := i.texts
  events := Event.ofLines judge 0 i.lines

section
variable {i : Intake} {sink : Sink}

/-- If nothing goes wrong with the input and the sink can be flushed, the run succeeds. -/
theorem Intake.outcome_of_sound (judge : Validator) (h : i.fault = none)
    (flushes : sink.flushFault = none) : (i.run judge sink).outcome = .ok (.of judge i.lines) := by
  rw [Intake.run, h, flushes]
  rfl

theorem Intake.outcome_of_fault (judge : Validator) {cause : Fault} (h : i.fault = some cause)
    (sink : Sink) : (i.run judge sink).outcome = .error (.io cause) := by
  rw [Intake.run, h]
  rfl

end

section
variable {judge : Validator}

theorem Text.trimmed_append (a b : List (List Char)) : trimmed (a ++ b) = trimmed a ++ trimmed b := by
  simp [trimmed]

theorem report_append (a b : List String) : report judge (a ++ b) = report judge a ++ report judge b :=
  List.flatMap_append

theorem Event.ofLines_cons (n : Int32) (line : List Char) (lines : List (List Char)) :
    Event.ofLines judge n (line :: lines) =
      if line.all Text.isBlank then Event.ofLines judge (n + 1) lines
      else .classified (n + 1) (judge.entry (Text.trim (String.ofList line))) ::
        Event.ofLines judge (n + 1) lines := by
  rw [Event.ofLines, classify_ofList]
  split <;> rfl

/-- There is an event for each text put to the validator, about that text and its verdict. -/
theorem Event.forall₂_ofLines (judge : Validator) (n : Int32) (lines : List (List Char)) :
    List.Forall₂ (fun text event => ∃ number, event = Event.classified number (judge.entry text))
      (Text.trimmed lines) (Event.ofLines judge n lines) := by
  induction lines generalizing n with
  | nil => exact .nil
  | cons line lines ih =>
    rw [Text.trimmed_cons, Event.ofLines_cons]
    split
    · exact ih _
    · exact .cons ⟨_, rfl⟩ (ih _)

end

/-! ## Input piece by piece -/

namespace Intake

section
variable {fault : Option Fault} {piece : List UInt8} {more : List (List UInt8)}

theorem of_cons_ok {text : List Char} (h : Utf8.decode piece = .ok text) :
    of fault (piece :: more) =
      ⟨Text.pieceLines text ++ (of fault more).lines, (of fault more).fault⟩ := by
  rw [of, h]

theorem of_cons_error {e : Utf8.Error} (h : Utf8.decode piece = .error e) :
    of fault (piece :: more) = ⟨[], some ⟨.invalidData, e.message⟩⟩ := by
  rw [of, h]

theorem texts_of_cons_ok {text : List Char} (h : Utf8.decode piece = .ok text) :
    (of fault (piece :: more)).texts =
      Text.trimmed (Text.pieceLines text) ++ (of fault more).texts := by
  rw [of_cons_ok h]
  exact Text.trimmed_append _ _

end

/-! ## Input without faults -/

/-- Nothing goes wrong with an input exactly if it is read to its end and all pieces of it are UTF-8. -/
theorem fault_of_eq_none_iff (fault : Option Fault) (pieces : List (List UInt8)) :
    (Intake.of fault pieces).fault = none ↔
      fault = none ∧ ∀ piece ∈ pieces, Utf8.isValid piece = true := by
  induction pieces with
  | nil => simp [Intake.of]
  | cons piece pieces ih =>
    cases text : Utf8.decode piece with
    | error e => simp [of_cons_error text, Utf8.isValid, text]
    | ok text' => simp [of_cons_ok text, Utf8.isValid, text, ih]

/-- Pieces that are the bytes of texts bring the lines of the texts before those of the other pieces. -/
theorem of_map_encode_append (fault : Option Fault) (texts : List (List Char))
    (pieces : List (List UInt8)) :
    Intake.of fault (texts.map Utf8.encode ++ pieces) =
      ⟨texts.flatMap Text.pieceLines ++ (Intake.of fault pieces).lines,
        (Intake.of fault pieces).fault⟩ := by
  induction texts with
  | nil => rfl
  | cons text texts ih =>
    rw [List.map_cons, List.cons_append, of_cons_ok (Utf8.decode_encode text), ih,
      List.flatMap_cons, List.append_assoc]

theorem of_map_encode (fault : Option Fault) (texts : List (List Char)) :
    Intake.of fault (texts.map Utf8.encode) = ⟨texts.flatMap Text.pieceLines, fault⟩ := by
  have whole := of_map_encode_append fault texts []
  rwa [List.append_nil, Intake.of, List.append_nil] at whole

/-- The bytes of a text bring the lines of the text. -/
theorem of_pieces_encode (text : List Char) :
    Intake.of none (Text.pieces lineFeed (Utf8.encode text)) = ⟨Text.lines text, none⟩ := by
  rw [pieces_encode, of_map_encode, Text.lines_eq_flatMap_pieceLines]

end Intake

/-- If a line feed can only be the last byte of a text, it can only be the last character. -/
theorem lineFeed_not_mem_dropLast {text : List Char} (h : lineFeed ∉ (Utf8.encode text).dropLast) :
    '\n' ∉ text.dropLast := by
  rcases List.eq_nil_or_concat' text with rfl | ⟨front, last, rfl⟩
  · exact List.not_mem_nil
  · rw [Utf8.encode_append, List.dropLast_append_of_ne_nil (by simp [Utf8.encode])] at h
    rw [List.dropLast_concat]
    intro m
    exact h (List.mem_append_left _ (List.mem_flatMap.2 ⟨'\n', m, by decide⟩))

/-- **No line that a source brings has a line end inside**, wherever the refills are cut. -/
theorem not_lineEnd_of_mem_intake (source : Source) :
    ∀ line ∈ source.intake.lines, ∀ c ∈ line, c ≠ '\n' ∧ c ≠ '\r' := by
  have unended := Source.lineFeed_not_mem_cut source
  rw [Source.intake]
  generalize source.cut.pieces = pieces at unended
  generalize source.cut.fault = fault
  induction pieces with
  | nil => exact fun _ h => absurd h List.not_mem_nil
  | cons piece pieces ih =>
    intro line h
    cases text : Utf8.decode piece with
    | error e =>
      rw [Intake.of_cons_error text] at h
      exact absurd h List.not_mem_nil
    | ok text' =>
      rw [Intake.of_cons_ok text] at h
      rcases List.mem_append.1 h with h | h
      · have encoded : piece = Utf8.encode text' := Utf8.decode_eq_ok_iff.1 text
        have last := unended piece List.mem_cons_self
        rw [encoded] at last
        exact Text.not_lineEnd_of_mem_pieceLines (lineFeed_not_mem_dropLast last) h
      · exact ih (fun p hp => unended p (List.mem_cons_of_mem _ hp)) line h

/-- Stretches each of which is a text are the bytes of texts. -/
theorem exists_map_encode {stretches : List (List UInt8)}
    (h : ∀ stretch ∈ stretches, ∃ text, stretch = Utf8.encode text) :
    ∃ texts : List (List Char), stretches = texts.map Utf8.encode := by
  induction stretches with
  | nil => exact ⟨[], rfl⟩
  | cons stretch stretches ih =>
    obtain ⟨text, rfl⟩ := h stretch List.mem_cons_self
    obtain ⟨texts, rfl⟩ := ih fun s hs => h s (List.mem_cons_of_mem _ hs)
    exact ⟨text :: texts, rfl⟩

/-- Pieces that are UTF-8 are UTF-8 as a whole. -/
theorem exists_encode_of_isValid {pieces : List (List UInt8)}
    (h : ∀ piece ∈ pieces, Utf8.isValid piece = true) : ∃ text, pieces.flatten = Utf8.encode text := by
  induction pieces with
  | nil => exact ⟨[], rfl⟩
  | cons piece pieces ih =>
    obtain ⟨first, hfirst⟩ := Utf8.isValid_iff.1 (h piece List.mem_cons_self)
    obtain ⟨later, hlater⟩ := ih fun p hp => h p (List.mem_cons_of_mem _ hp)
    exact ⟨first ++ later, by rw [List.flatten_cons, hfirst, hlater, Utf8.encode_append]⟩

/-- **The pieces of bytes are texts exactly if the bytes are one.** -/
theorem forall_pieces_iff {bytes : List UInt8} :
    (∀ piece ∈ Text.pieces lineFeed bytes, Utf8.isValid piece = true) ↔
      ∃ text, bytes = Utf8.encode text := by
  constructor
  · intro valid
    obtain ⟨text, whole⟩ := exists_encode_of_isValid valid
    exact ⟨text, by rw [← whole, Text.flatten_pieces]⟩
  · rintro ⟨text, rfl⟩ piece hp
    rw [pieces_encode] at hp
    obtain ⟨part, -, rfl⟩ := List.mem_map.1 hp
    exact Utf8.isValid_iff.2 ⟨part, rfl⟩

namespace Source

variable {source : Source}

/-- Input that is read to its end is the data, cut behind each line feed. -/
theorem cut_of_readable (gapless : source.Gapless)
    (readable : ∀ fault, .fault fault ∈ source → fault.kind = .interrupted) :
    source.cut = ⟨Text.pieces lineFeed source.data, none⟩ := by
  have arrivals := arrivals_eq_map_data fun fault hf =>
    (mem_arrivals_iff.1 hf).2 (readable fault (mem_arrivals_iff.1 hf).1)
  exact cut_of_arrivals gapless arrivals

theorem fault_intake_eq_none_iff (gapless : source.Gapless) :
    source.intake.fault = none ↔
      (∀ fault, .fault fault ∈ source → fault.kind = .interrupted) ∧
        ∀ piece ∈ Text.pieces lineFeed source.data, Utf8.isValid piece = true := by
  rw [intake, Intake.fault_of_eq_none_iff]
  constructor
  · rintro ⟨unbroken, valid⟩
    rw [cut_of_gapless gapless, Cut.fault_of_eq_none_iff] at unbroken
    have readable : ∀ fault, .fault fault ∈ source → fault.kind = .interrupted := fun fault hf =>
      by_contra fun hard => unbroken fault (mem_arrivals_iff.2 ⟨hf, hard⟩)
    rw [cut_of_readable gapless readable] at valid
    exact ⟨readable, valid⟩
  · rintro ⟨readable, valid⟩
    rw [cut_of_readable gapless readable]
    exact ⟨rfl, valid⟩

/-- **If nothing goes wrong with the input**, its data is a text, and it brings the lines of it. -/
theorem exists_text (gapless : source.Gapless) (sound : source.intake.fault = none) :
    ∃ text, source.data = Utf8.encode text ∧ source.intake = ⟨Text.lines text, none⟩ := by
  obtain ⟨readable, valid⟩ := (fault_intake_eq_none_iff gapless).1 sound
  obtain ⟨text, whole⟩ := forall_pieces_iff.1 valid
  refine ⟨text, whole, ?_⟩
  rw [intake, cut_of_readable gapless readable, whole, Intake.of_pieces_encode]

end Source

/-! ## A run takes an intake -/

namespace Progress

/-- Reports lines up to the first fault. -/
def lines (judge : Validator) (p : Progress) (lines : List (List Char)) : Except Halted Progress :=
  lines.foldlM (fun p line => p.line judge (String.ofList line)) p

/-- Reports the lines of an intake and meets its fault. -/
def take (judge : Validator) (p : Progress) (i : Intake) : Except Halted Progress :=
  match p.lines judge i.lines with
  | .error halted => .error halted
  | .ok p =>
    match i.fault with
    | none => .ok p
    | some fault => .error ⟨fault, p⟩

variable {judge : Validator} {p q : Progress}

theorem lines_cons_ok {line : List Char} {more : List (List Char)}
    (h : p.line judge (String.ofList line) = .ok q) :
    p.lines judge (line :: more) = q.lines judge more := foldlM_cons_ok h

theorem lines_cons_error {line : List Char} {more : List (List Char)} {halted : Halted}
    (h : p.line judge (String.ofList line) = .error halted) :
    p.lines judge (line :: more) = .error halted := foldlM_cons_error h

theorem lines_append (a b : List (List Char)) :
    p.lines judge (a ++ b) = p.lines judge a >>= fun q => q.lines judge b :=
  List.foldlM_append

/-- **Following pieces is taking in their lines.** -/
theorem follow_eq_take (p : Progress) (fault : Option Fault) (pieces : List (List UInt8)) :
    p.follow judge ⟨pieces, fault⟩ = p.take judge (.of fault pieces) := by
  induction pieces generalizing p with
  | nil => rfl
  | cons piece pieces ih =>
    have split : (⟨piece :: pieces, fault⟩ : Cut) = Cut.cons piece ⟨pieces, fault⟩ := rfl
    rw [split]
    cases text : Utf8.decode piece with
    | error e =>
      have failed : p.piece judge piece = .error ⟨⟨.invalidData, e.message⟩, p⟩ := by
        rw [Progress.piece, text]
      rw [follow_cons_error failed, Intake.of_cons_error text]
      rfl
    | ok text' =>
      have reported : p.piece judge piece = p.lines judge (Text.pieceLines text') := by
        rw [Progress.piece, text]
        rfl
      rw [Intake.of_cons_ok text, take]
      simp only [lines_append]
      cases done : p.lines judge (Text.pieceLines text') with
      | error halted =>
        rw [follow_cons_error (reported.trans done)]
        rfl
      | ok q =>
        rw [follow_cons_ok (reported.trans done), ih]
        rfl

/-! ## What a line does -/

section
variable {line : List Char}

theorem line_of_blank (blank : line.all Text.isBlank = true) :
    p.line judge (String.ofList line) = .ok (p.reported judge line) := by
  unfold Progress.line
  rw [classifyM_recorded, classify_ofList, if_pos blank, reported_of_blank blank]
  rfl

theorem line_of_fits (text : ¬ line.all Text.isBlank = true)
    (fits : p.sink.Fits (reportLine (judge.entry (Text.trim (String.ofList line))))) :
    p.line judge (String.ofList line) = .ok (p.reported judge line) := by
  unfold Progress.line
  rw [classifyM_recorded, classify_ofList, if_neg text, reported_of_text text]
  simp only [Sink.write_of_fits fits]
  rfl

/-- A line whose report line finds no room has been told to the log, but does not count. -/
theorem line_of_not_fits {room : Nat} (text : ¬ line.all Text.isBlank = true)
    (hr : p.sink.room = some room)
    (small : room < (reportLine (judge.entry (Text.trim (String.ofList line)))).length) :
    p.line judge (String.ofList line) = .error ⟨.noRoom, { p.reported judge line with
      summary := p.summary
      sink := p.sink.store ((reportLine (judge.entry (Text.trim (String.ofList line)))).take room) }⟩ := by
  unfold Progress.line
  rw [classifyM_recorded, classify_ofList, if_neg text, reported_of_text text]
  simp only [Sink.write_of_not_fits hr small]
  rfl

end

/-! ## Lines that have room -/

/-- No line fails if the report of them all has room. -/
theorem lines_of_fits {lines : List (List Char)}
    (fits : p.sink.Fits (report judge (Text.trimmed lines))) :
    p.lines judge lines = .ok (lines.foldl (reported judge) p) := by
  induction lines generalizing p with
  | nil => rfl
  | cons line lines ih =>
    rw [Text.trimmed_cons] at fits
    rw [List.foldl_cons]
    by_cases blank : line.all Text.isBlank = true
    · rw [if_pos blank] at fits
      rw [lines_cons_ok (line_of_blank blank), ih (by rwa [reported_of_blank blank])]
    · rw [if_neg blank, report_cons, Sink.fits_append] at fits
      rw [lines_cons_ok (line_of_fits blank fits.1),
        ih (by rw [reported_of_text blank]; exact fits.2)]

/-- What the steps of lines add to the questions. -/
theorem asked_foldl_reported (lines : List (List Char)) :
    (lines.foldl (reported judge) p).asked = (Text.trimmed lines).reverse ++ p.asked := by
  induction lines generalizing p with
  | nil => rfl
  | cons line lines ih =>
    rw [List.foldl_cons, ih, Text.trimmed_cons]
    by_cases blank : line.all Text.isBlank = true
    · rw [reported_of_blank blank, if_pos blank]
    · rw [reported_of_text blank, if_neg blank, List.reverse_cons, List.append_assoc]
      rfl

/-- What the steps of lines add to the events. -/
theorem events_foldl_reported (lines : List (List Char)) :
    (lines.foldl (reported judge) p).events =
      (Event.ofLines judge p.lineNumber lines).reverse ++ p.events := by
  induction lines generalizing p with
  | nil => rfl
  | cons line lines ih =>
    rw [List.foldl_cons, ih, Event.ofLines_cons]
    by_cases blank : line.all Text.isBlank = true
    · rw [reported_of_blank blank, if_pos blank]
    · rw [reported_of_text blank, if_neg blank, List.reverse_cons, List.append_assoc]
      rfl

/-! ## Lines that have not -/

/-- The lines fail for want of room in the first whose report line exceeds it: `k` report lines have room
and `k + 1` have not, what is stored is as much of the report as there is room for, and `k + 1` lines
have been put to the validator and told to the log. -/
structure Stops (judge : Validator) (p : Progress) (lines : List (List Char)) (room k : Nat)
    (q : Progress) : Prop where
  least : (report judge ((Text.trimmed lines).take k)).length ≤ room
  exceeds : room < (report judge ((Text.trimmed lines).take (k + 1))).length
  failed : p.lines judge lines = .error ⟨.noRoom, q⟩
  sink : q.sink = p.sink.store ((report judge (Text.trimmed lines)).take room)
  asked : q.asked = ((Text.trimmed lines).take (k + 1)).reverse ++ p.asked
  events : q.events = ((Event.ofLines judge p.lineNumber lines).take (k + 1)).reverse ++ p.events

namespace Stops

variable {line : List Char} {lines : List (List Char)} {room k : Nat} {entry : Entry}

/-- A blank line takes no room. -/
theorem of_blank (blank : line.all Text.isBlank = true)
    (h : Stops judge (p.reported judge line) lines room k q) :
    Stops judge p (line :: lines) room k q := by
  have texts := Text.trimmed_cons line lines
  have told := @Event.ofLines_cons judge p.lineNumber line lines
  rw [if_pos blank] at texts told
  obtain ⟨least, exceeds, failed, sink, asked, events⟩ := h
  rw [reported_of_blank blank] at sink asked events
  constructor
  · rwa [texts]
  · rwa [texts]
  · rw [lines_cons_ok (line_of_blank blank), failed]
  · rw [texts, sink]
  · rw [texts, asked]
  · rw [told, events]

/-- A line that has room leaves the rest of it to the later ones. -/
theorem of_fits (text : ¬ line.all Text.isBlank = true)
    (he : judge.entry (Text.trim (String.ofList line)) = entry) (hr : p.sink.room = some room)
    (fits : (reportLine entry).length ≤ room)
    (h : Stops judge (p.reported judge line) lines (room - (reportLine entry).length) k q) :
    Stops judge p (line :: lines) room (k + 1) q := by
  have texts := Text.trimmed_cons line lines
  have told := @Event.ofLines_cons judge p.lineNumber line lines
  rw [if_neg text] at texts told
  have written : p.sink.Fits (reportLine (judge.entry (Text.trim (String.ofList line)))) := by
    rw [he]
    intro n hn
    rw [hr] at hn
    cases hn
    exact fits
  obtain ⟨least, exceeds, failed, sink, asked, events⟩ := h
  rw [reported_of_text text, he] at sink asked events
  constructor
  · rw [texts, List.take_succ_cons, report_cons, he, List.length_append]
    omega
  · rw [texts, List.take_succ_cons, report_cons, he, List.length_append]
    omega
  · rw [lines_cons_ok (line_of_fits text written), failed]
  · rw [texts, report_cons, he, sink, List.take_append, List.take_of_length_le fits,
      Sink.store_append]
  · rw [texts, asked, List.take_succ_cons, List.reverse_cons, List.append_assoc, ← he]
    rfl
  · rw [told, events, List.take_succ_cons, List.reverse_cons, List.append_assoc, he]
    rfl

/-- A line that has none is the last. -/
theorem of_not_fits (text : ¬ line.all Text.isBlank = true)
    (he : judge.entry (Text.trim (String.ofList line)) = entry) (hr : p.sink.room = some room)
    (small : room < (reportLine entry).length) :
    Stops judge p (line :: lines) room 0 { p.reported judge line with
      summary := p.summary
      sink := p.sink.store ((reportLine entry).take room) } := by
  have texts := Text.trimmed_cons line lines
  have told := @Event.ofLines_cons judge p.lineNumber line lines
  rw [if_neg text] at texts told
  constructor
  · exact Nat.zero_le _
  · rw [texts, List.take_succ_cons, report_cons, he, List.length_append]
    omega
  · subst he
    exact lines_cons_error (line_of_not_fits text hr small)
  · rw [texts, report_cons, he, List.take_append_of_le_length (Nat.le_of_lt small)]
  · subst he
    rw [texts, reported_of_text text]
    rfl
  · rw [told, reported_of_text text]
    rfl

end Stops

/-- **Lines whose report has no room** fail. -/
theorem lines_of_not_fits {lines : List (List Char)} {room : Nat} (hr : p.sink.room = some room)
    (small : room < (report judge (Text.trimmed lines)).length) :
    ∃ k q, Stops judge p lines room k q := by
  induction lines generalizing p room with
  | nil => exact absurd small (Nat.not_lt_zero _)
  | cons line lines ih =>
    rw [Text.trimmed_cons] at small
    by_cases blank : line.all Text.isBlank = true
    · rw [if_pos blank] at small
      have room : (p.reported judge line).sink.room = some room := by
        rwa [reported_of_blank blank]
      obtain ⟨k, q, later⟩ := ih room small
      exact ⟨k, q, later.of_blank blank⟩
    · rw [if_neg blank, report_cons, List.length_append] at small
      by_cases fits :
          (reportLine (judge.entry (Text.trim (String.ofList line)))).length ≤ room
      · have left : (p.reported judge line).sink.room =
            some (room - (reportLine (judge.entry (Text.trim (String.ofList line)))).length) := by
          rw [reported_of_text blank]
          simp [Sink.store, hr]
        obtain ⟨k, q, later⟩ := ih left (by omega)
        exact ⟨k + 1, q, later.of_fits blank rfl hr fits⟩
      · exact ⟨0, _, .of_not_fits blank rfl hr (Nat.lt_of_not_le fits)⟩

/-- A run that has come to its end flushes the sink. -/
theorem finish_eq (p : Progress) :
    p.finish =
      ⟨match p.sink.flushFault with
        | none => .ok p.summary
        | some fault => .error (.io fault),
        p.sink.bytes, p.sink.flushes + 1, p.asked.reverse, p.events.reverse⟩ := by
  unfold finish Sink.flush
  cases p.sink.flushFault <;> rfl

end Progress

/-! ## Runs -/

section
variable (judge : Validator) {source : Source} {sink : Sink}

/-- **A run takes the intake of its source.** -/
theorem run_eq_take (source : Source) (sink : Sink) :
    run judge source sink =
      match Progress.take judge { sink := sink } source.intake with
      | .error halted => halted.progress.close (.error (.io halted.fault))
      | .ok p => p.finish := by
  unfold run
  rw [Progress.consume_eq_follow_cut]
  show (match Progress.follow judge { sink := sink } ⟨source.cut.pieces, source.cut.fault⟩ with
    | .error halted => halted.progress.close (.error (.io halted.fault))
    | .ok p => p.finish) = _
  rw [Progress.follow_eq_take]
  rfl

/-- **If the whole report has room**, the run is what its intake says. -/
theorem run_eq_of_fits (fits : sink.Fits (report judge source.intake.texts)) :
    run judge source sink = source.intake.run judge sink := by
  generalize hp : source.intake.lines.foldl (Progress.reported judge) { sink := sink } = p
  have lines : Progress.lines judge { sink := sink } source.intake.lines = .ok p := by
    rw [← hp, Progress.lines_of_fits fits]
  have stored : p.sink = sink.store (report judge source.intake.texts) := by
    rw [← hp, Progress.sink_foldl_reported]
    rfl
  have counted : p.summary = .of judge source.intake.lines := by
    rw [← hp, Progress.summary_foldl_reported, Summary.zero_add]
  have asked : p.asked.reverse = source.intake.texts := by
    rw [← hp, Progress.asked_foldl_reported, List.append_nil, List.reverse_reverse]
    rfl
  have events : p.events.reverse = Event.ofLines judge 0 source.intake.lines := by
    rw [← hp, Progress.events_foldl_reported, List.append_nil, List.reverse_reverse]
  have bytes : p.sink.bytes = sink.bytes ++ report judge source.intake.texts := by
    rw [stored, Sink.bytes_store]
  have flushFault : p.sink.flushFault = sink.flushFault := by rw [stored]; rfl
  have flushes : p.sink.flushes = sink.flushes := by rw [stored]; rfl
  rw [run_eq_take, Progress.take, lines]
  cases fault : source.intake.fault with
  | some _ => simp [Progress.close, Intake.run, fault, bytes, flushes, asked, events]
  | none =>
    simp [Progress.finish_eq, Intake.run, fault, bytes, flushFault, flushes, asked, events, counted]

/-- **If it has not**, the run ends for want of room, in the first line whose report line exceeds it:
the report is stored as far as there is room, and nothing is flushed. -/
theorem run_eq_of_not_fits {room : Nat} (hr : sink.room = some room)
    (small : room < (report judge source.intake.texts).length) :
    ∃ k, (report judge (source.intake.texts.take k)).length ≤ room ∧
      room < (report judge (source.intake.texts.take (k + 1))).length ∧
      run judge source sink =
        ⟨.error (.io .noRoom), sink.bytes ++ (report judge source.intake.texts).take room,
          sink.flushes, source.intake.texts.take (k + 1),
          (Event.ofLines judge 0 source.intake.lines).take (k + 1)⟩ := by
  obtain ⟨k, q, least, exceeds, failed, stored, asked, events⟩ :=
    Progress.lines_of_not_fits (p := { sink := sink }) hr small
  refine ⟨k, least, exceeds, ?_⟩
  rw [run_eq_take, Progress.take, failed]
  simp only [Progress.close, stored, asked, events, Sink.bytes_store, List.append_nil,
    List.reverse_reverse]
  rfl

end

/-- **A run that succeeds** has had room for its whole report and no fault in its input, and counts all
lines of it. -/
theorem run_of_outcome_ok {judge : Validator} {source : Source} {sink : Sink} {summary : Summary}
    (ok : (run judge source sink).outcome = .ok summary) :
    run judge source sink = source.intake.run judge sink ∧ source.intake.fault = none ∧
      summary = .of judge source.intake.lines := by
  have fits : sink.Fits (report judge source.intake.texts) := by
    by_contra small
    obtain ⟨_, hr, small⟩ := Sink.not_fits_iff.1 small
    obtain ⟨_, -, -, ended⟩ := run_eq_of_not_fits judge hr small
    rw [ended] at ok
    cases ok
  have done := run_eq_of_fits judge fits
  rw [done, Intake.run] at ok
  cases ended : source.intake.fault.or sink.flushFault with
  | some _ =>
    rw [ended] at ok
    cases ok
  | none =>
    rw [ended] at ok
    exact ⟨done, (Option.or_eq_none_iff.1 ended).1, (Except.ok.inj ok).symm⟩

/-- **No count passes the number of bytes that were read**: each line takes a byte of its own. -/
theorem lines_le_of_outcome_run {judge : Validator} {source : Source} {sink : Sink} {summary : Summary}
    (gapless : source.Gapless) (ok : (run judge source sink).outcome = .ok summary) :
    summary.lines ≤ source.data.length := by
  obtain ⟨-, sound, rfl⟩ := run_of_outcome_ok ok
  obtain ⟨text, data, lines⟩ := Source.exists_text gapless sound
  rw [Summary.lines_of, lines, data]
  exact Nat.le_trans (Text.length_lines_le text) (Utf8.length_le_length_encode text)

end AmountReport
