import AmountReport.Command.Program
import AmountReport.Proofs.Report.Broken
import AmountReport.Proofs.Report.FileRun

/-!
# How the command ends

The arguments give settings, or end the command at once. The path among the settings is looked at before
any file is. What then comes of it, the exit code, the report and the message, depends on the path and
on what it opens to; the rest of the settings and the filter choose among the records of the log, and no
more (`exists_perform_eq`).

Main statements: the exit code and the two outputs, for all arguments, filters and files
(`execute_reports_or_explains`), and that commands which differ in what they log differ in nothing else
(`execute_eq_but_log`).
-/

namespace AmountReport

namespace Command

/-! ## Exit codes -/

/-- A path is refused as the value of its setting. -/
theorem eq_invalidSetting_of_validatePath {field path : String} {failure : Failure}
    (h : validatePath field path = .error failure) :
    ∃ reason, failure = .invalidSetting field path reason := by
  unfold validatePath at h
  split at h
  · exact ⟨_, (Except.error.inj h).symm⟩
  · split at h
    · exact ⟨_, (Except.error.inj h).symm⟩
    · cases h

theorem exitCode_of_validate {config : Config} {failure : Failure}
    (h : config.validate = .error failure) : failure.exitCode = 2 := by
  obtain ⟨reason, rfl⟩ := eq_invalidSetting_of_validatePath h
  rfl

theorem exitCode_of_outcome_runFile {judge : Validator} {opener : Opener} {path : String}
    {sink : Sink} {failure : Failure}
    (failed : (runFile judge opener path sink).outcome = .error failure) : failure.exitCode = 1 := by
  rcases opener.refuses_or_opens path with ⟨cause, refuses⟩ | ⟨contents, opens⟩
  · rw [runFile_of_refuses refuses] at failed
    rw [← Except.error.inj failed]
    rfl
  · rw [runFile_of_file opens] at failed
    obtain ⟨fault, rfl⟩ := eq_io_of_outcome_run failed
    rfl

/-! ## Opening the log -/

/-- **The log opens if the library returns**: of a setting that it refuses, as of none, the command has a
view of its own. -/
theorem exists_openLog_eq_ok_iff {reader : Log.Reader} {setting : Option String} (verbose : Bool) :
    (∃ view, openLog reader setting verbose = .ok view) ↔ reader.Returns setting := by
  cases setting with
  | none => exact iff_of_true ⟨_, rfl⟩ nofun
  | some text =>
    rw [openLog, Option.map_some]
    cases outcome : reader.read text with
    | ok view =>
      refine iff_of_true ⟨view, rfl⟩ ?_
      rintro _ ⟨⟩ words
      simp [outcome]
    | error misreading =>
      cases misreading with
      | refused =>
        refine iff_of_true ⟨_, rfl⟩ ?_
        rintro _ ⟨⟩ words
        simp [outcome]
      | stopped words =>
        refine iff_of_false ?_ fun returns => returns text rfl words outcome
        rintro ⟨view, ⟨⟩⟩

theorem exists_openLog_eq_error {reader : Log.Reader} {setting : Option String} (verbose : Bool)
    (stops : ¬ reader.Returns setting) : ∃ words, openLog reader setting verbose = .error words := by
  cases opened : openLog reader setting verbose with
  | ok view => exact absurd ((exists_openLog_eq_ok_iff verbose).1 ⟨view, opened⟩) stops
  | error words => exact ⟨words, rfl⟩

/-- Of the command's own reader it is the text of the filter that decides. -/
theorem returns_ofFilters_iff {text : String} :
    Log.Reader.ofFilters.Returns (some text) ↔
      ∀ words, Log.Filter.read text ≠ .error (.stopped words) := by
  have stopped_iff (words : String) : Log.Reader.ofFilters.read text = .error (.stopped words) ↔
      Log.Filter.read text = .error (.stopped words) := by
    show Log.Filter.view <$> Log.Filter.read text = _ ↔ _
    cases Log.Filter.read text with
    | ok filter => exact iff_of_false nofun nofun
    | error misreading => exact ⟨fun h => congrArg _ (Except.error.inj h), fun h => by cases h; rfl⟩
  simp only [Log.Reader.Returns, Option.mem_def, Option.some.injEq, forall_eq', ne_eq, stopped_iff]

/-! ## Settings and what comes of them -/

section
variable {view : Log.View} {opener : Opener} {config : Config}

theorem perform_of_refused {failure : Failure} (h : config.validate = .error failure) :
    perform view opener config =
      ⟨2, [], [(Notice.configured config).record, (Notice.refused failure).record].filterMap view,
        some failure.userMessage⟩ := by
  rw [perform, h, ← exitCode_of_validate h]

theorem perform_of_ok {summary : Summary} (valid : config.validate = .ok ())
    (ok : (runFile Amount.isValid opener config.input {}).outcome = .ok summary) :
    let r := runFile Amount.isValid opener config.input {}
    perform view opener config =
      ⟨0, r.output, ((Notice.configured config).record :: r.events.map Event.record).filterMap view,
        none⟩ := by
  simp only [perform, valid, ok]

theorem perform_of_error {failure : Failure} (valid : config.validate = .ok ())
    (failed : (runFile Amount.isValid opener config.input {}).outcome = .error failure) :
    let r := runFile Amount.isValid opener config.input {}
    perform view opener config =
      ⟨1, r.output, ((Notice.configured config).record ::
          (r.events.map Event.record ++ [(Notice.failed failure).record])).filterMap view,
        some failure.userMessage⟩ := by
  simp only [perform, valid, failed, exitCode_of_outcome_runFile failed, List.cons_append]

/-- **What comes of a path does not depend on the log.** For one path the code, the report, the message
and the records are settled; the view and the other settings choose what is shown of the records. -/
theorem exists_perform_eq (opener : Opener) (path : String) :
    ∃ (code : Nat) (stdout : List UInt8) (records : List Log.Record) (message : Option String),
      ∀ (view : Log.View) (config : Config), config.input = path →
        perform view opener config =
          ⟨code, stdout, ((Notice.configured config).record :: records).filterMap view, message⟩ := by
  -- the path alone decides between the three ends, before the view or the other settings come in
  cases valid : validatePath "input" path with
  | error failure =>
    refine ⟨2, [], [(Notice.refused failure).record], some failure.userMessage, ?_⟩
    intro view config same
    exact perform_of_refused (by rw [Config.validate, same, valid])
  | ok =>
    generalize hr : runFile Amount.isValid opener path {} = r
    cases outcome : r.outcome with
    | ok summary =>
      refine ⟨0, r.output, r.events.map Event.record, none, ?_⟩
      rintro view config rfl
      subst hr
      exact perform_of_ok valid outcome
    | error failure =>
      refine ⟨1, r.output, r.events.map Event.record ++ [(Notice.failed failure).record],
        some failure.userMessage, ?_⟩
      rintro view config rfl
      subst hr
      exact perform_of_error valid outcome

end

/-- The lines of the log, as they stand on the standard error output. -/
def Exit.logText (e : Exit) : String := String.join (e.log.map (· ++ "\n"))

/-- The message for the user, if there is one, as it stands on the standard error output. -/
def Exit.messageText (e : Exit) : String := String.join (e.message.toList.map (· ++ "\n"))

/-- The message comes behind the log. -/
theorem Exit.stderr_eq (e : Exit) : e.stderr = e.logText ++ e.messageText := by
  rw [stderr, List.map_append, String.join_append]
  rfl

theorem Exit.stderr_of_message {e : Exit} {message : String} (h : e.message = some message) :
    e.stderr = e.logText ++ message ++ "\n" := by
  rw [stderr_eq, messageText, h]
  simp [String.append_assoc]

/-! ## Commands -/

/-- The command's own parser keeps the promise. -/
theorem Parser.promise_ofArguments : Parser.ofArguments.Promise where
  request _ := ⟨rfl, rfl⟩
  misuse _ := ⟨rfl, rfl⟩

section
variable {libraries : Libraries} {setting : Option String} {opener : Opener}
  {arguments : List Argument} {config : Config}

theorem execute_of_answer {answer : Answer} (h : libraries.parser.read arguments = .error answer) :
    libraries.execute setting opener arguments = libraries.parser.exit answer := by
  rw [Libraries.execute, h]

theorem execute_of_stopped {words : String} (h : libraries.parser.read arguments = .ok config)
    (stopped : openLog libraries.log setting config.verbose = .error words) :
    libraries.execute setting opener arguments = ⟨101, [], [], some words⟩ := by
  simp only [Libraries.execute, h, stopped, stopCode]

theorem execute_of_opened {view : Log.View} (h : libraries.parser.read arguments = .ok config)
    (opened : openLog libraries.log setting config.verbose = .ok view) :
    libraries.execute setting opener arguments = perform view opener config := by
  simp only [Libraries.execute, h, opened]

end

/-- **What the standard output holds of a file**: the report of the lines of its sound beginning, which
is all of the file exactly if the run succeeds. -/
theorem exists_text_output_runFile {judge : Validator} {opener : Opener} {path : String}
    {contents : List UInt8} (opens : opener path = .ok (.file contents)) :
    ∃ text, Utf8.encode text = (Source.ofBytes contents).sound ∧
      (runFile judge opener path {}).output = report judge (Text.trimmed (Text.lines text)) ∧
      ((∃ summary, (runFile judge opener path {}).outcome = .ok summary) ↔
        (Source.ofBytes contents).sound = contents) := by
  obtain ⟨text, sound, lines, whole⟩ := Source.exists_sound_text contents
  have done : run judge (.ofBytes contents) {} = (Source.ofBytes contents).intake.run judge {} :=
    run_eq_of_fits judge (Sink.fits_of_room_eq_none rfl)
  refine ⟨text, sound.symm, ?_, ?_⟩
  · rw [runFile_of_file opens, done, ← lines]
    rfl
  · rw [runFile_of_file opens, done, ← whole]
    cases fault : (Source.ofBytes contents).intake.fault <;> simp [Run.logged, Intake.run, fault]

/-- **A program that is stopped** while the setting of the log filter is read has done nothing: its
standard output is empty, and no file was looked at. -/
theorem execute_of_not_returns {libraries : Libraries} {setting : Option String}
    {arguments : List Argument} {config : Config}
    (read : libraries.parser.read arguments = .ok config)
    (stops : ¬ libraries.log.Returns setting) :
    ∃ words, ∀ opener, libraries.execute setting opener arguments = ⟨101, [], [], some words⟩ := by
  obtain ⟨words, stopped⟩ := exists_openLog_eq_error config.verbose stops
  exact ⟨words, fun opener => execute_of_stopped read stopped⟩

/-- The command's own reader does not always return: behind a blank in front, the position of the equals
sign is looked up inside a character of two bytes. -/
example : (Log.Filter.read " é=off" matches .error (.stopped _)) = true := by decide +kernel

/-- **How the command ends**, whatever the libraries are that it is built with, if the parser ends it as
it promises. On a misuse the code is 2 and the standard output is empty. On a request for help or for the
version the code is 0 and the standard output is the words of the answer.

Otherwise there are settings, and the log is opened, for which the library has to return from reading the
setting of the log filter, as it says it does: with a view or an error. If the path among the settings is
refused, the code is 2, the standard output is empty, and all is the same whatever files there are. If
not, the standard output is what the run on the path writes, and the code is 0 if that succeeds and 1 if
not; of a file, that is the report of the lines of its sound beginning, which is all of it exactly if the
run succeeds. If the path is refused or the run fails, the message for the user is the last on the
standard error output, behind the log. -/
theorem execute_reports_or_explains (libraries : Libraries) (promise : libraries.parser.Promise)
    (setting : Option String) (opener : Opener) (arguments : List Argument) :
    let e := libraries.execute setting opener arguments
    (∀ text, libraries.parser.read arguments = .error (.misuse text) →
        e.code = 2 ∧ e.stdout = []) ∧
      (∀ text, libraries.parser.read arguments = .error (.request text) →
        e.code = 0 ∧ e.stdout = Utf8.encode text.toList) ∧
      ∀ config, libraries.parser.read arguments = .ok config → libraries.log.Returns setting →
        (∀ failure, config.validate = .error failure →
          e.code = 2 ∧ e.stdout = [] ∧ e.stderr = e.logText ++ failure.userMessage ++ "\n" ∧
            ∀ elsewhere, libraries.execute setting elsewhere arguments = e) ∧
        (config.validate = .ok () →
          let r := runFile Amount.isValid opener config.input {}
          e.stdout = r.output ∧
            (e.code = 0 ↔ ∃ summary, r.outcome = .ok summary) ∧
            (e.code = 1 ↔ ∃ failure, r.outcome = .error failure) ∧
            (∀ failure, r.outcome = .error failure →
              e.stderr = e.logText ++ failure.userMessage ++ "\n") ∧
            ∀ contents, opener config.input = .ok (.file contents) →
              ∃ text, Utf8.encode text = (Source.ofBytes contents).sound ∧
                e.stdout = report Amount.isValid (Text.trimmed (Text.lines text)) ∧
                (e.code = 0 ↔ (Source.ofBytes contents).sound = contents)) := by
  intro e
  refine ⟨?_, ?_, ?_⟩
  · intro text misuse
    have ended : e = libraries.parser.exit (.misuse text) := execute_of_answer misuse
    rw [ended]
    exact promise.misuse text
  · intro text request
    have ended : e = libraries.parser.exit (.request text) := execute_of_answer request
    rw [ended]
    exact promise.request text
  · intro config read returns
    obtain ⟨view, opened⟩ := (exists_openLog_eq_ok_iff config.verbose).2 returns
    have performed : e = perform view opener config := execute_of_opened read opened
    constructor
    · intro failure refused
      have ended := performed.trans (perform_of_refused refused)
      refine ⟨congrArg Exit.code ended, congrArg Exit.stdout ended,
        Exit.stderr_of_message (congrArg Exit.message ended), fun elsewhere => ?_⟩
      rw [ended, execute_of_opened read opened, perform_of_refused refused]
    · intro valid r
      -- success and failure of the run exclude each other, so each code tells which of them it was
      have ended : e.stdout = r.output ∧ (e.code = 0 ↔ ∃ summary, r.outcome = .ok summary) ∧
          (e.code = 1 ↔ ∃ failure, r.outcome = .error failure) ∧
          ∀ failure, r.outcome = .error failure → e.message = some failure.userMessage := by
        rw [performed]
        cases outcome : r.outcome with
        | ok summary => simp [perform_of_ok valid outcome, r]
        | error failure => simp [perform_of_error valid outcome, r]
      obtain ⟨stdout, success, failed, message⟩ := ended
      refine ⟨stdout, success, failed, fun failure h => Exit.stderr_of_message (message failure h), ?_⟩
      intro contents opens
      obtain ⟨text, sound, output, whole⟩ := exists_text_output_runFile opens
      exact ⟨text, sound, stdout.trans output, success.trans whole⟩

/-- Four ways to end, with the libraries that the command is built with: an option that does not exist, a
request, a blank path, and a file whose second line is no text, so that there is a report of the first. -/
theorem execute_reports_line_before_invalid :
    let opener : Opener := fun path =>
      if path = "f" then .ok (.file [0x31, 0x2C, 0x30, 0x30, 0x0A, 0xFF]) else .error (.ofErrno 2)
    let name := Utf8.encode commandName.toList
    let read (argument : Argument) := Libraries.own.parser.read [name, [0x2D, 0x76], argument]
    let run (argument : Argument) :=
      Libraries.own.execute none opener [name, [0x2D, 0x76], argument]
    Libraries.own.parser.Promise ∧ Libraries.own.log.Returns none ∧
      (read [0x2D, 0x78] = .error (.misuse "error: unexpected argument '-x' found") ∧
        (run [0x2D, 0x78]).code = 2) ∧
      (read [0x2D, 0x56] = .error (.request "currency-validator 0.1.0\n") ∧
        (run [0x2D, 0x56]).stdout = Utf8.encode "currency-validator 0.1.0\n".toList) ∧
      (read [0x20] = .ok ⟨" ", true⟩ ∧ (run [0x20]).code = 2 ∧
        Libraries.own.execute none (fun _ => .ok .other) [name, [0x2D, 0x76], [0x20]] =
          run [0x20]) ∧
      read [0x66] = .ok ⟨"f", true⟩ ∧ (run [0x66]).code = 1 ∧
        (run [0x66]).stdout = report Amount.isValid ["1,00"] ∧
        (run [0x66]).stderr = (run [0x66]).logText ++
          "Erro ao ler a entrada: invalid utf-8 sequence of 1 bytes from index 0" ++ "\n" := by
  intro opener name read run
  have misused : read [0x2D, 0x78] = .error (.misuse "error: unexpected argument '-x' found") := by
    decide +kernel
  have requested : read [0x2D, 0x56] = .error (.request "currency-validator 0.1.0\n") := by
    decide +kernel
  have blank : read [0x20] = .ok ⟨" ", true⟩ := by decide +kernel
  have file : read [0x66] = .ok ⟨"f", true⟩ := by decide +kernel
  have refused : Config.validate ⟨" ", true⟩ =
      .error (.invalidSetting "input" " " "Path cannot be empty") := by decide +kernel
  have valid : Config.validate ⟨"f", true⟩ = .ok () := by decide +kernel
  have failed : (runFile Amount.isValid opener "f" {}).outcome =
      .error (.io ⟨.invalidData, "invalid utf-8 sequence of 1 bytes from index 0"⟩) := by
    decide +kernel
  have output : (runFile Amount.isValid opener "f" {}).output =
      report Amount.isValid ["1,00"] := by
    decide +kernel
  have returns : Libraries.own.log.Returns none := nofun
  have promise : Libraries.own.parser.Promise := Parser.promise_ofArguments
  have ends (argument : Argument) :=
    execute_reports_or_explains Libraries.own promise none opener [name, [0x2D, 0x76], argument]
  obtain ⟨misuse, -, -⟩ := ends [0x2D, 0x78]
  obtain ⟨-, request, -⟩ := ends [0x2D, 0x56]
  obtain ⟨-, -, onBlank⟩ := ends [0x20]
  obtain ⟨-, -, onFile⟩ := ends [0x66]
  obtain ⟨code, -, -, elsewhere⟩ := (onBlank _ blank returns).1 _ refused
  obtain ⟨stdout, -, fails, explains, -⟩ := (onFile _ file returns).2 valid
  have one := fails.2 ⟨_, failed⟩
  have told := explains _ failed
  exact ⟨promise, returns, ⟨misused, (misuse _ misused).1⟩, ⟨requested, (request _ requested).2⟩,
    ⟨blank, code, elsewhere _⟩, file, one, stdout.trans output, told⟩

/-- **The log does not interfere.** Commands on the same path, built with the same libraries, whatever
else their settings are and whatever log filters are set or refused, have the same exit code, the same
standard output, and the same message for the user, which stands behind the log if there is one. What the
log shows is chosen from the same records, but for the one that tells the settings. The library that reads
the settings of the log filter has to return from that, as it says it does: with a view or an error. -/
theorem execute_eq_but_log (libraries : Libraries) (opener : Opener)
    {arguments arguments' : List Argument} {config config' : Config}
    (read : libraries.parser.read arguments = .ok config)
    (read' : libraries.parser.read arguments' = .ok config') (same : config.input = config'.input)
    {setting setting' : Option String} (returns : libraries.log.Returns setting)
    (returns' : libraries.log.Returns setting') :
    let e := libraries.execute setting opener arguments
    let e' := libraries.execute setting' opener arguments'
    e.code = e'.code ∧ e.stdout = e'.stdout ∧ e.message = e'.message ∧
      e.stderr = e.logText ++ e.messageText ∧ e'.stderr = e'.logText ++ e.messageText ∧
      ∃ view view' records,
        openLog libraries.log setting config.verbose = .ok view ∧
        openLog libraries.log setting' config'.verbose = .ok view' ∧
        e.log = ((Notice.configured config).record :: records).filterMap view ∧
        e'.log = ((Notice.configured config').record :: records).filterMap view' := by
  intro e e'
  obtain ⟨view, opened⟩ := (exists_openLog_eq_ok_iff config.verbose).2 returns
  obtain ⟨view', opened'⟩ := (exists_openLog_eq_ok_iff config'.verbose).2 returns'
  obtain ⟨code, stdout, records, message, settled⟩ := exists_perform_eq opener config.input
  have ended := (execute_of_opened read opened).trans (settled view config rfl)
  have ended' := (execute_of_opened read' opened').trans (settled view' config' same.symm)
  have told : e.messageText = e'.messageText := by
    rw [Exit.messageText, Exit.messageText, congrArg Exit.message ended, congrArg Exit.message ended']
  refine ⟨?_, ?_, ?_, e.stderr_eq, told ▸ e'.stderr_eq, view, view', records, opened, opened',
    congrArg Exit.log ended, congrArg Exit.log ended'⟩
  · exact (congrArg Exit.code ended).trans (congrArg Exit.code ended').symm
  · exact (congrArg Exit.stdout ended).trans (congrArg Exit.stdout ended').symm
  · exact (congrArg Exit.message ended).trans (congrArg Exit.message ended').symm

/-- A command that tells more, with a filter that is refused, and one that shows nothing. -/
theorem execute_eq_but_log_of_verbose :
    let opener : Opener := fun path =>
      if path = "f" then .ok (.file [0x31, 0x2C, 0x30, 0x30, 0x0A, 0xFF]) else .error (.ofErrno 2)
    let name := Utf8.encode commandName.toList
    let e := Libraries.own.execute (some "a=b=c") opener [name, [0x66], [0x2D, 0x76]]
    let e' := Libraries.own.execute (some "off") opener [name, [0x2D, 0x2D], [0x66]]
    Libraries.own.parser.read [name, [0x66], [0x2D, 0x76]] = .ok ⟨"f", true⟩ ∧
      Libraries.own.parser.read [name, [0x2D, 0x2D], [0x66]] = .ok ⟨"f", false⟩ ∧
      Libraries.own.log.Returns (some "a=b=c") ∧ Libraries.own.log.Returns (some "off") ∧
      Log.Filter.read "a=b=c" = .error .refused ∧ Log.Filter.read "off" = .ok [⟨"", 0, false⟩] ∧
      e.code = e'.code ∧ e.stdout = e'.stdout ∧ e.message = e'.message := by
  intro opener name e e'
  have read : Libraries.own.parser.read [name, [0x66], [0x2D, 0x76]] = .ok ⟨"f", true⟩ := by
    decide +kernel
  have read' : Libraries.own.parser.read [name, [0x2D, 0x2D], [0x66]] = .ok ⟨"f", false⟩ := by
    decide +kernel
  have refused : Log.Filter.read "a=b=c" = .error .refused := by decide +kernel
  have off : Log.Filter.read "off" = .ok [⟨"", 0, false⟩] := by decide +kernel
  have returns : Libraries.own.log.Returns (some "a=b=c") :=
    returns_ofFilters_iff.2 fun words => by rw [refused]; nofun
  have returns' : Libraries.own.log.Returns (some "off") :=
    returns_ofFilters_iff.2 fun words => by rw [off]; nofun
  obtain ⟨code, stdout, message, -⟩ :=
    execute_eq_but_log Libraries.own opener read read' rfl returns returns'
  exact ⟨read, read', returns, returns', refused, off, code, stdout, message⟩

end Command

end AmountReport
