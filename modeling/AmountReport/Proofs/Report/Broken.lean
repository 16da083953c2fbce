import AmountReport.Proofs.Report.Intake

/-!
# Runs that fail on their input

Something can go wrong with an input in two ways, which a run notices at different places: a fault of
reading while a piece is put together, or a piece that is no UTF-8. What the run leaves behind is the
same in both: the report of the pieces before, each of which ends with a line feed.

Main statement: a run that fails on its input has done what the run on the sound beginning of the input
does, except for the flush (`run_leaves_sound_report`).
-/

namespace AmountReport

/-- The bytes of the pieces before the one in which something goes wrong: the fault that ends the input,
or that the piece is no UTF-8. -/
def Source.sound (source : Source) : List UInt8 :=
  ((Cut.of [] source.arrivals).pieces.takeWhile Utf8.isValid).flatten

/-- How a piece goes wrong, `rest` being what arrives behind its bytes. -/
inductive Breaks : (piece : List UInt8) → (rest : List Arrival) → Fault → Prop
  /-- It meets a fault before its line feed. -/
  | read {piece : List UInt8} {rest : List Arrival} {fault : Fault} (unended : lineFeed ∉ piece) :
    Breaks piece (.fault fault :: rest) fault
  /-- It ends with its line feed and is no UTF-8. -/
  | decode {body : List UInt8} {rest : List Arrival} {e : Utf8.Error} (inside : lineFeed ∉ body)
    (error : Utf8.decode (body ++ [lineFeed]) = .error e) :
    Breaks (body ++ [lineFeed]) rest ⟨.invalidData, e.message⟩
  /-- It ends with the input and is no UTF-8. -/
  | decodeLast {piece : List UInt8} {e : Utf8.Error} (unended : lineFeed ∉ piece)
    (error : Utf8.decode piece = .error e) : Breaks piece [] ⟨.invalidData, e.message⟩

/-- The piece ends with a line feed, and has no other. -/
def Ended (piece : List UInt8) : Prop := ∃ body, lineFeed ∉ body ∧ piece = body ++ [lineFeed]

theorem pieces_flatten {pieces : List (List UInt8)} (h : ∀ piece ∈ pieces, Ended piece) :
    Text.pieces lineFeed pieces.flatten = pieces := by
  induction pieces with
  | nil => rfl
  | cons piece pieces ih =>
    obtain ⟨body, inside, rfl⟩ := h piece List.mem_cons_self
    rw [List.flatten_cons, List.append_assoc, Text.pieces_append inside, List.singleton_append,
      Text.pieces, if_pos rfl, ih fun p hp => h p (List.mem_cons_of_mem _ hp)]
    rfl

theorem getLast?_flatten {pieces : List (List UInt8)} (h : ∀ piece ∈ pieces, Ended piece) :
    pieces.flatten = [] ∨ pieces.flatten.getLast? = some lineFeed := by
  rcases List.eq_nil_or_concat' pieces with rfl | ⟨front, last, rfl⟩
  · exact .inl rfl
  · obtain ⟨body, -, rfl⟩ := h last (by simp)
    right
    simp [← List.append_assoc]

/-- An input goes wrong behind `sound` pieces, which all end with a line feed. -/
structure BrokenBehind (sound : List (List UInt8)) (input : List Arrival) (fault : Fault) : Prop where
  ended : ∀ piece ∈ sound, Ended piece
  breaks : ∃ piece rest,
    input = (sound.flatten ++ piece).map .byte ++ rest ∧ Breaks piece rest fault

namespace BrokenBehind

variable {input rest : List Arrival} {fault : Fault}

theorem first {piece : List UInt8} (h : Breaks piece rest fault) :
    BrokenBehind [] (piece.map .byte ++ rest) fault :=
  ⟨by simp, piece, rest, by simp, h⟩

theorem later {body : List UInt8} {sound : List (List UInt8)} (inside : lineFeed ∉ body)
    (h : BrokenBehind sound input fault) :
    BrokenBehind ((body ++ [lineFeed]) :: sound) ((body ++ [lineFeed]).map .byte ++ input) fault := by
  obtain ⟨ended, piece, rest, same, breaks⟩ := h
  refine ⟨?_, piece, rest, ?_, breaks⟩
  · intro p hp
    rcases List.mem_cons.1 hp with rfl | hp
    · exact ⟨body, inside, rfl⟩
    · exact ended p hp
  · simp [same]

end BrokenBehind

/-- The pieces before the first that is no UTF-8. -/
theorem takeWhile_isValid (piece : List UInt8) (more : List (List UInt8)) :
    (piece :: more).takeWhile Utf8.isValid =
      match Utf8.decode piece with
      | .error _ => []
      | .ok _ => piece :: more.takeWhile Utf8.isValid := by
  rw [List.takeWhile_cons, Utf8.isValid]
  cases Utf8.decode piece <;> rfl

/-- **Where an input goes wrong**: behind its sound pieces. -/
theorem brokenBehind_of_fault {arrivals : List Arrival} {pending : List UInt8} {fault : Fault}
    (unended : lineFeed ∉ pending)
    (h : (Intake.of (Cut.of pending arrivals).fault (Cut.of pending arrivals).pieces).fault =
      some fault) :
    BrokenBehind ((Cut.of pending arrivals).pieces.takeWhile Utf8.isValid)
      (pending.map .byte ++ arrivals) fault := by
  induction arrivals generalizing pending with
  | nil =>
    rw [Cut.of] at h ⊢
    by_cases nothing : pending = []
    · rw [if_pos nothing] at h
      cases h
    · rw [if_neg nothing] at h ⊢
      cases text : Utf8.decode pending with
      | ok text' =>
        rw [Intake.of_cons_ok text] at h
        cases h
      | error e =>
        rw [Intake.of_cons_error text] at h
        cases h
        rw [takeWhile_isValid, text]
        exact .first (.decodeLast unended text)
  | cons arrival more ih =>
    cases arrival with
    | fault other =>
      cases h
      exact .first (.read unended)
    | byte b =>
      have next : pending.map .byte ++ .byte b :: more = (pending ++ [b]).map .byte ++ more := by
        simp
      rw [next]
      rw [Cut.of] at h ⊢
      by_cases ends : b = lineFeed
      · subst ends
        rw [if_pos rfl, Cut.cons] at h ⊢
        rw [takeWhile_isValid]
        cases text : Utf8.decode (pending ++ [lineFeed]) with
        | error e =>
          rw [Intake.of_cons_error text] at h
          cases h
          exact .first (.decode unended text)
        | ok text' =>
          rw [Intake.of_cons_ok text] at h
          exact .later unended (ih List.not_mem_nil h)
      · rw [if_neg ends] at h ⊢
        exact ih (by simpa [unended] using Ne.symm ends) h

/-- The sound pieces bring the lines that the input brings before it goes wrong. -/
theorem Intake.of_takeWhile (fault : Option Fault) (pieces : List (List UInt8)) :
    Intake.of none (pieces.takeWhile Utf8.isValid) = ⟨(Intake.of fault pieces).lines, none⟩ := by
  induction pieces with
  | nil => rfl
  | cons piece pieces ih =>
    rw [takeWhile_isValid]
    cases text : Utf8.decode piece with
    | error e =>
      rw [Intake.of_cons_error text]
      rfl
    | ok text' => simp [Intake.of_cons_ok text, ih]

/-- What bytes bring that arrive at once. -/
theorem Source.intake_ofBytes (bytes : List UInt8) :
    (Source.ofBytes bytes).intake = .of none (Text.pieces lineFeed bytes) := by
  rw [intake, cut_of_delivers (.inl rfl), Cut.of_bytes, Text.glue_nil]

theorem Source.sound_ofBytes (bytes : List UInt8) :
    (Source.ofBytes bytes).sound = ((Text.pieces lineFeed bytes).takeWhile Utf8.isValid).flatten := by
  rw [sound, ofBytes, arrivals, arrivals, List.append_nil, Cut.of_bytes, Text.glue_nil]

/-- The first pieces of some bytes, up to the first that is no UTF-8, are a text, and they bring the lines
of it. -/
theorem exists_text_takeWhile {bytes : List UInt8} {pieces back : List (List UInt8)}
    (split : Text.pieces lineFeed bytes = pieces ++ back) (fault : Option Fault) :
    ∃ text, (pieces.takeWhile Utf8.isValid).flatten = Utf8.encode text ∧
      (Intake.of fault pieces).lines = Text.lines text := by
  have valid : ∀ piece ∈ pieces.takeWhile Utf8.isValid, Utf8.isValid piece = true :=
    fun _ hp => List.mem_takeWhile_imp hp
  have cut : Text.pieces lineFeed (pieces.takeWhile Utf8.isValid).flatten =
      pieces.takeWhile Utf8.isValid := by
    have front := pieces.takeWhile_append_dropWhile (p := Utf8.isValid)
    rw [← front, List.append_assoc] at split
    exact Text.pieces_flatten_of_append split
  obtain ⟨text, whole⟩ := exists_encode_of_isValid valid
  have brought := Intake.of_pieces_encode text
  rw [← whole, cut, Intake.of_takeWhile fault] at brought
  exact ⟨text, whole, congrArg Intake.lines brought⟩

/-- **The sound beginning of some bytes is a text**, which has the lines that the bytes bring. It is all
of the bytes exactly if nothing goes wrong with them. -/
theorem Source.exists_sound_text (bytes : List UInt8) :
    ∃ text, (Source.ofBytes bytes).sound = Utf8.encode text ∧
      (Source.ofBytes bytes).intake.lines = Text.lines text ∧
      ((Source.ofBytes bytes).intake.fault = none ↔ (Source.ofBytes bytes).sound = bytes) := by
  rw [sound_ofBytes, intake_ofBytes]
  obtain ⟨text, whole, lines⟩ :=
    exists_text_takeWhile (List.append_nil (Text.pieces lineFeed bytes)).symm none
  refine ⟨text, whole, lines, ?_⟩
  rw [Intake.fault_of_eq_none_iff]
  constructor
  · rintro ⟨-, all⟩
    rw [List.takeWhile_eq_self_iff.2 all, Text.flatten_pieces]
  · intro same
    exact ⟨rfl, forall_pieces_iff.2 ⟨text, same.symm.trans whole⟩⟩

/-- **A run that fails on its input leaves the report of what is sound of it.** The input is the sound
bytes, which end with a line feed, and behind them a piece that breaks, with the fault that the run
reports. The run on the sound bytes alone, however they arrive, succeeds, and the failed run has written
what that run writes, put the same texts to the validator and told the log the same, all of it and
nothing else; it has not flushed the sink. -/
theorem run_leaves_sound_report (judge : Validator) {source : Source} (gapless : source.Gapless)
    {failure : Failure} (failed : (run judge source {}).outcome = .error failure) :
    (∃ fault piece rest, failure = .io fault ∧ Breaks piece rest fault ∧
        source.arrivals = (source.sound ++ piece).map .byte ++ rest) ∧
      (source.sound = [] ∨ source.sound.getLast? = some lineFeed) ∧
      ∀ alone : Source, alone.Delivers source.sound →
        let failing := run judge source {}
        let before := run judge alone {}
        (∃ summary, before.outcome = .ok summary) ∧ failing.output = before.output ∧
          failing.asked = before.asked ∧ failing.events = before.events ∧ failing.flushes = 0 := by
  have unlimited (s : Source) : run judge s {} = s.intake.run judge {} :=
    run_eq_of_fits judge (Sink.fits_of_room_eq_none rfl)
  have cut := Source.cut_of_gapless gapless
  rw [unlimited] at failed
  cases broken : source.intake.fault with
  | none =>
    rw [Intake.run, broken] at failed
    cases failed
  | some fault =>
    have same : failure = .io fault := by
      rw [Intake.run, broken] at failed
      exact (Except.error.inj failed).symm
    have place := broken
    rw [Source.intake, cut] at place
    obtain ⟨ended, piece, rest, arrivals, breaks⟩ := brokenBehind_of_fault List.not_mem_nil place
    refine ⟨⟨fault, piece, rest, same, breaks, arrivals⟩, getLast?_flatten ended, ?_⟩
    intro alone delivered
    have intake : alone.intake = ⟨source.intake.lines, none⟩ := by
      rw [Source.intake, Source.cut_of_delivers delivered, Cut.of_bytes, Text.glue_nil, Source.sound,
        pieces_flatten ended, Intake.of_takeWhile (Cut.of [] source.arrivals).fault, ← cut]
      rfl
    rw [unlimited, unlimited, intake]
    refine ⟨⟨_, rfl⟩, rfl, rfl, rfl, ?_⟩
    simp [Intake.run, broken]

/-- A piece that breaks behind a line of it: the second line has its line end, but it is not reported, as
its piece never ends. -/
theorem run_leaves_sound_report_of_cut_piece :
    let source : Source := [.data [0x31, 0x0A, 0x32, 0x0D, 0x33], .fault (.ofErrno 5)]
    let failing := run (· == "1") source {}
    let before := run (· == "1") (.ofBytes [0x31, 0x0A]) {}
    source.Gapless ∧ failing.outcome = .error (.io (.ofErrno 5)) ∧ source.sound = [0x31, 0x0A] ∧
      failing.output = before.output ∧ failing.asked = before.asked ∧
      failing.events = before.events ∧ failing.flushes = 0 ∧ before.asked = ["1"] := by
  intro source failing before
  have gapless : source.Gapless := by decide
  have failed : failing.outcome = .error (.io (.ofErrno 5)) := by decide +kernel
  have sound : source.sound = [0x31, 0x0A] := by decide
  obtain ⟨-, -, same⟩ := run_leaves_sound_report (· == "1") gapless failed
  obtain ⟨-, output, asked, events, flushes⟩ := same (.ofBytes [0x31, 0x0A]) (.inl (by rw [sound]))
  exact ⟨gapless, failed, sound, output, asked, events, flushes, by decide +kernel⟩

end AmountReport
