import ComponentBrowser.Run
import ComponentBrowser.Proofs.Log.Crash
import ComponentBrowser.Proofs.Text.Quoted
import Mathlib.Control.Monad.Basic
import Mathlib.Logic.ExistsUnique

/-!
# ComponentBrowser.Proofs.Run.Streams

How a run ends, and which stream it speaks on.

A run fails if it cannot start: its settings do not load, or the log filter
that they settle on does not parse.  Such a run says so in one line on standard
error and does nothing else.  A run may also break down over its log filter;
then the filter has a directive with white space in front and a character
beyond ASCII in it.  Every other run succeeds, and its command decides the
stream: an answer and a mistake of the operator go to standard output, any other
error goes to standard error.

* `prepare_eq_fault_iff`, `prepare_eq_crash_iff` — what keeps a run from starting;
* `isLine_stderr_refused` — the report of a fault is one line;
* `existsUnique_ending` — a command ends in exactly one of three ways;
* `run_streams` — the exit code and both streams of every run.
-/

namespace ComponentBrowser

namespace Run

/-! ## runs that cannot start -/

/-- What keeps a run from starting. -/
inductive StartFault (fs : FileSystem) (v : Variables) (o : Overrides) : SettingsFault → Prop
  /-- The settings do not load. -/
  | load {fault : SettingsFault} (h : Settings.load fs v o = .error fault) :
      StartFault fs v o fault
  /-- The log filter that the settings settle on does not parse. -/
  | filter {s : Settings} {cause : Log.FilterFault} (h : Settings.load fs v o = .ok s)
      (hparse : Log.Filter.parse (Settings.filterText s.logLevel? v) = .error (.fault cause)) :
      StartFault fs v o (.badFilter (Settings.filterText s.logLevel? v) cause)

/-- The log filter that the settings settle on breaks its reader down. -/
def StartCrash (fs : FileSystem) (v : Variables) (o : Overrides) : Prop :=
  ∃ s, Settings.load fs v o = .ok s ∧
    Log.Filter.parse (Settings.filterText s.logLevel? v) = .error .crash

theorem filter_eq_fault_iff (level? : Option String) (v : Variables) (fault : SettingsFault) :
    Settings.filter level? v = .error (.fault fault) ↔
      ∃ cause, Log.Filter.parse (Settings.filterText level? v) = .error (.fault cause) ∧
        fault = .badFilter (Settings.filterText level? v) cause := by
  rw [Settings.filter]
  cases hparse : Log.Filter.parse (Settings.filterText level? v) with
  | ok f => simp [Except.mapError]
  | error halt => cases halt <;> simp [Except.mapError, Log.Halt.map, eq_comm]

theorem filter_eq_crash_iff (level? : Option String) (v : Variables) :
    Settings.filter level? v = .error .crash ↔
      Log.Filter.parse (Settings.filterText level? v) = .error .crash := by
  rw [Settings.filter]
  cases hparse : Log.Filter.parse (Settings.filterText level? v) with
  | ok f => simp [Except.mapError]
  | error halt => cases halt <;> simp [Except.mapError, Log.Halt.map]

theorem prepare_of_load_error {fs : FileSystem} {v : Variables} {o : Overrides}
    {fault : SettingsFault} (h : Settings.load fs v o = .error fault) :
    prepare fs v o = .error (.fault fault) := by
  rw [prepare, h]
  rfl

theorem prepare_of_load_ok {fs : FileSystem} {v : Variables} {o : Overrides} {s : Settings}
    (h : Settings.load fs v o = .ok s) :
    prepare fs v o = (Settings.filter s.logLevel? v).map (s, ·) := by
  rw [prepare, h]
  rfl

theorem map_eq_error_iff {ε α β : Type} {x : Except ε α} {f : α → β} {e : ε} :
    x.map f = .error e ↔ x = .error e := by
  cases x <;> simp [Except.map]

/-- A run is prepared unless one of the two faults keeps it from starting. -/
theorem prepare_eq_fault_iff (fs : FileSystem) (v : Variables) (o : Overrides)
    (fault : SettingsFault) :
    prepare fs v o = .error (.fault fault) ↔ StartFault fs v o fault := by
  constructor
  · intro h
    cases hload : Settings.load fs v o with
    | error fault' =>
        rw [prepare_of_load_error hload] at h
        injection h with h
        injection h with h
        rw [← h]
        exact .load hload
    | ok s =>
        rw [prepare_of_load_ok hload, map_eq_error_iff, filter_eq_fault_iff] at h
        obtain ⟨cause, hparse, hfault⟩ := h
        rw [hfault]
        exact .filter hload hparse
  · intro h
    cases h with
    | load hload => exact prepare_of_load_error hload
    | filter hload hparse =>
        rw [prepare_of_load_ok hload, map_eq_error_iff, filter_eq_fault_iff]
        exact ⟨_, hparse, rfl⟩

/-- A run breaks down where its log filter breaks the reader down. -/
theorem prepare_eq_crash_iff (fs : FileSystem) (v : Variables) (o : Overrides) :
    prepare fs v o = .error .crash ↔ StartCrash fs v o := by
  rw [StartCrash]
  cases hload : Settings.load fs v o with
  | error fault => simp [prepare_of_load_error hload]
  | ok s => simp [prepare_of_load_ok hload, map_eq_error_iff, filter_eq_crash_iff]

/-- A run that is prepared has its settings from the load. -/
theorem load_of_prepare {fs : FileSystem} {v : Variables} {o : Overrides} {s : Settings}
    {f : Log.Filter} (h : prepare fs v o = .ok (s, f)) : Settings.load fs v o = .ok s := by
  cases hload : Settings.load fs v o with
  | error fault =>
      rw [prepare_of_load_error hload] at h
      contradiction
  | ok s' =>
      rw [prepare_of_load_ok hload] at h
      cases hfilter : Settings.filter s'.logLevel? v with
      | error halt =>
          rw [hfilter] at h
          contradiction
      | ok f' =>
          rw [hfilter] at h
          injection h with h
          injection h with hs
          rw [hs]

/-! ## the report of a run that cannot start -/

/-- A text that is one whole line. -/
def IsLine (text : String) : Prop :=
  ∃ line, text = line ++ "\n" ∧ '\n' ∉ line.toList

theorem stderr_refused (v : Variables) (fault : SettingsFault) :
    (Outcome.refused (.settings fault)).stderr v =
      "Error: Config(" ++ Text.quoted fault.message ++ ")\n" := by
  have hopen : "Error: Config(" = "Error: " ++ "Config(" := by decide
  have hclose : ")\n" = ")" ++ "\n" := by decide
  change "Error: " ++ ("Config(" ++ Text.quoted fault.message ++ ")") ++ "\n" = _
  rw [hopen, hclose]
  simp only [String.append_assoc]

/-- **A run that cannot start reports in one line**, whatever paths and
filters the fault names. -/
theorem isLine_stderr_refused (v : Variables) (fault : SettingsFault) :
    IsLine ((Outcome.refused (.settings fault)).stderr v) := by
  refine ⟨"Error: " ++ ("Config(" ++ Text.quoted fault.message ++ ")"), rfl, ?_⟩
  simp only [String.toList_append, List.mem_append, not_or]
  refine ⟨?_, ⟨?_, Text.newline_not_mem_quoted _⟩, ?_⟩
  · decide
  · decide
  · decide

/-! ## the end of a command -/

/-- The three ways in which a command ends. -/
inductive Ending where
  | answered
  /-- The operator made a mistake. -/
  | rejected
  | failed
  deriving DecidableEq

/-- What a result and the streams of its run have to do with each other under
each ending. -/
def Ending.Describes (result : Except Error String) (stdout stderr : String) : Ending → Prop
  | answered => ∃ text, result = .ok text ∧ stdout = text ∧ stderr = ""
  | rejected => ∃ e, result = .error e ∧ e.isUserFacing = true ∧
      stdout = e.message ++ "\n" ∧ stderr = ""
  | failed => ∃ e, result = .error e ∧ e.isUserFacing = false ∧
      stdout = "" ∧ stderr = e.message ++ "\n"

/-- The ending that a result leads to. -/
def Ending.ofResult : Except Error String → Ending
  | .ok _ => answered
  | .error e => if e.isUserFacing then rejected else failed

/-- The streams are those of the ending that the result leads to. -/
theorem Ending.describes_ofResult (v : Variables) (result : Except Error String)
    (log : List String) :
    (ofResult result).Describes result ((Outcome.answered result log).stdout v)
      ((Outcome.answered result log).stderr v) := by
  cases result with
  | ok text => exact ⟨text, rfl, rfl, rfl⟩
  | error e =>
      cases huser : e.isUserFacing with
      | true => simp [ofResult, Describes, Outcome.stdout, Outcome.stderr, huser]
      | false => simp [ofResult, Describes, Outcome.stdout, Outcome.stderr, huser]

/-- No other ending describes a result, on whatever streams. -/
theorem Ending.eq_ofResult {result : Except Error String} {stdout stderr : String}
    {ending : Ending} (h : ending.Describes result stdout stderr) : ending = ofResult result := by
  cases ending with
  | answered =>
      obtain ⟨text, rfl, -, -⟩ := h
      rfl
  | rejected =>
      obtain ⟨e, rfl, huser, -, -⟩ := h
      rw [ofResult, if_pos huser]
  | failed =>
      obtain ⟨e, rfl, huser, -, -⟩ := h
      rw [ofResult, huser]
      rfl

theorem existsUnique_ending (v : Variables) (result : Except Error String) (log : List String) :
    ∃! ending : Ending, ending.Describes result ((Outcome.answered result log).stdout v)
      ((Outcome.answered result log).stderr v) :=
  ⟨Ending.ofResult result, Ending.describes_ofResult v result log,
    fun _ h => Ending.eq_ofResult h⟩

end Run

/-! ## whole runs -/

open Run

theorem run_of_startFault {fs : FileSystem} {v : Variables} {words : List Bytes}
    {request : CommandLine.Request} {fault : SettingsFault}
    (hread : CommandLine.read v words = .ok request)
    (h : StartFault fs v request.overrides fault) :
    run fs v words = .refused (.settings fault) := by
  have hprepare := (prepare_eq_fault_iff _ _ _ _).mpr h
  simp only [run, hread, hprepare]

theorem run_of_startCrash {fs : FileSystem} {v : Variables} {words : List Bytes}
    {request : CommandLine.Request} (hread : CommandLine.read v words = .ok request)
    (h : StartCrash fs v request.overrides) : run fs v words = .crashed := by
  have hprepare := (prepare_eq_crash_iff _ _ _).mpr h
  simp only [run, hread, hprepare]

theorem run_of_no_halt {fs : FileSystem} {v : Variables} {words : List Bytes}
    {request : CommandLine.Request} (hread : CommandLine.read v words = .ok request)
    (hfault : ¬∃ fault, StartFault fs v request.overrides fault)
    (hcrash : ¬StartCrash fs v request.overrides) :
    ∃ s filter, Settings.load fs v request.overrides = .ok s ∧
      run fs v words =
        command fs s filter request.json (Command.ofArguments request.arguments) := by
  cases hprepare : prepare fs v request.overrides with
  | error halt =>
      cases halt with
      | fault fault => exact absurd ⟨fault, (prepare_eq_fault_iff _ _ _ _).mp hprepare⟩ hfault
      | crash => exact absurd ((prepare_eq_crash_iff _ _ _).mp hprepare) hcrash
  | ok p =>
      refine ⟨p.1, p.2, load_of_prepare hprepare, ?_⟩
      simp only [run, hread, hprepare]

theorem not_startFault_of_startCrash {fs : FileSystem} {v : Variables} {o : Overrides}
    (h : StartCrash fs v o) : ¬∃ fault, StartFault fs v o fault := by
  rintro ⟨fault, hfault⟩
  have hcrash := (prepare_eq_crash_iff fs v o).mpr h
  rw [(prepare_eq_fault_iff fs v o fault).mpr hfault] at hcrash
  injection hcrash with hcrash
  contradiction

/-- **Exit code and streams of every run.**  A run that the reader of the
command line stops succeeds.  Of the others, those fail that cannot start:
they run no command, print and log nothing and report the fault in one line.
Those that break down over their log filter run no command and print and log
nothing either, and the filter has a directive with white space in front and a
character beyond ASCII in it.  The rest succeed, and the result of the command
settles both streams. -/
theorem run_streams (fs : FileSystem) (v : Variables) (words : List Bytes) :
    match CommandLine.read v words with
    | .error _ => (run fs v words).exitCode = 0
    | .ok request =>
      ((run fs v words).exitCode = 1 ↔ ∃ fault, StartFault fs v request.overrides fault) ∧
      ((run fs v words).exitCode = 101 ↔ StartCrash fs v request.overrides) ∧
      ((∃ fault, StartFault fs v request.overrides fault ∧
          (run fs v words).stdout v = "" ∧
          (∀ result log, run fs v words ≠ .answered result log) ∧
          (run fs v words).log = [] ∧
          (run fs v words).stderr v =
            "Error: Config(" ++ Text.quoted fault.message ++ ")\n" ∧
          IsLine ((run fs v words).stderr v)) ∨
        (∃ s, Settings.load fs v request.overrides = .ok s ∧
          (∃ directive ∈ Log.Filter.split (Settings.filterText s.logLevel? v).toList,
            (∃ c ∈ directive.head?, Text.isBlank c = true) ∧ ∃ c ∈ directive, 0x80 ≤ c.toNat) ∧
          StartCrash fs v request.overrides ∧
          (run fs v words).stdout v = "" ∧
          (∀ result log, run fs v words ≠ .answered result log) ∧
          (run fs v words).log = []) ∨
        (¬∃ fault, StartFault fs v request.overrides fault) ∧
          ¬StartCrash fs v request.overrides ∧
          (run fs v words).exitCode = 0 ∧
          ∃ s, Settings.load fs v request.overrides = .ok s ∧
            ∃! ending : Ending,
              ending.Describes ((Command.ofArguments request.arguments).answer fs s request.json)
                ((run fs v words).stdout v) ((run fs v words).stderr v)) := by
  cases hread : CommandLine.read v words with
  | error n => simp only [run, hread, Outcome.exitCode]
  | ok request =>
      by_cases hcrash : StartCrash fs v request.overrides
      · have hfault := not_startFault_of_startCrash hcrash
        obtain ⟨s, hload, hparse⟩ := hcrash
        have hcrash : StartCrash fs v request.overrides := ⟨s, hload, hparse⟩
        have hdirective := Log.Filter.exists_directive_of_crash hparse
        rw [run_of_startCrash hread hcrash]
        refine ⟨⟨nofun, fun h => absurd h hfault⟩, ⟨fun _ => hcrash, fun _ => rfl⟩,
          .inr (.inl ⟨s, hload, hdirective, hcrash, rfl, nofun, rfl⟩)⟩
      · by_cases hfault : ∃ fault, StartFault fs v request.overrides fault
        · obtain ⟨fault, hstart⟩ := hfault
          rw [run_of_startFault hread hstart]
          refine ⟨⟨fun _ => ⟨fault, hstart⟩, fun _ => rfl⟩, ⟨nofun, fun h => absurd h hcrash⟩,
            .inl ⟨fault, hstart, rfl, nofun, rfl, ?_⟩⟩
          exact ⟨stderr_refused v fault, isLine_stderr_refused v fault⟩
        · obtain ⟨s, filter, hload, hrun⟩ := run_of_no_halt hread hfault hcrash
          rw [hrun]
          refine ⟨⟨nofun, fun h => absurd h hfault⟩, ⟨nofun, fun h => absurd h hcrash⟩,
            .inr (.inr ⟨hfault, hcrash, rfl, s, hload, existsUnique_ending v _ _⟩)⟩

/-- In a filter a no-break space takes two bytes and moves the end of the target
behind it into its middle: the settings load, and the run still does not end with
one of the codes 0 and 1. -/
theorem run_streams_broken :
    let fs : FileSystem := {
      currentDirectory := Path.ofText "/"
      entry? := fun p => if p = Path.ofText "/" then some (.directory 0) else none }
    let words := ["--log-level", "\u00a0a=info", "list"].map Bytes.ofText
    ∃ request s, CommandLine.read {} words = .ok request ∧
      Settings.load fs {} request.overrides = .ok s ∧ (run fs {} words).exitCode = 101 := by
  intro fs words
  let request : CommandLine.Request := ⟨{ logLevel? := some "\u00a0a=info" }, false, ["list"]⟩
  have hread : CommandLine.read {} words = .ok request := by decide +kernel
  have hprepare : prepare fs {} request.overrides = .error .crash := by decide +kernel
  have hcrash : StartCrash fs {} request.overrides := (prepare_eq_crash_iff _ _ _).mp hprepare
  have hexit : (run fs {} words).exitCode = 101 := by
    rw [run_of_startCrash hread hcrash]
    rfl
  obtain ⟨s, hload, -⟩ := hcrash
  exact ⟨request, s, hread, hload, hexit⟩

end ComponentBrowser
