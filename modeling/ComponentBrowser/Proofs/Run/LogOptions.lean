import ComponentBrowser.Proofs.Run.Streams
import ComponentBrowser.Proofs.Settings.Overriding

/-!
# ComponentBrowser.Proofs.Run.LogOptions

What a command line says about the log has no part in the answer.

Overrides fall into two parts, `o = o.withoutLog + o.logOnly`, and the second
leads to no other files.  So loading with `o` is loading with `o.withoutLog` and
overriding what is loaded with `o.logOnly` (`load_eq_map_logOnly`), and no
command reads what that changes (`answer_withOverrides_logOnly`).  The log
options meet the start of a run in one place: the level they settle on has to
parse as a log filter.

* `exists_answered_of_respond` — a run that starts answers as one whose options
  name files alone;
* `prepare_eq_error_congr` — what keeps a run from starting, of these and the level;
* `respond_log_options` — two runs that differ in nothing but log options.
-/

namespace ComponentBrowser

/-! ## the two parts of overrides -/

namespace Overrides

/-- What overrides say about files. -/
def withoutLog (o : Overrides) : Overrides where
  workspace? := o.workspace?
  configFile? := o.configFile?

/-- What overrides say about the log. -/
def logOnly (o : Overrides) : Overrides where
  logLevel? := o.logLevel?
  verbose := o.verbose
  noColor := o.noColor

@[simp] theorem logLevel?_logOnly (o : Overrides) : o.logOnly.logLevel? = o.logLevel? := rfl

theorem withoutLog_add_logOnly (o : Overrides) : o.withoutLog + o.logOnly = o := by
  simp [add_def, withoutLog, logOnly]

end Overrides

namespace Settings

theorem load_eq_map_logOnly (fs : FileSystem) (v : Variables) (o : Overrides) :
    load fs v o = (load fs v o.withoutLog).map (·.withOverrides o.logOnly) := by
  rw [← load_add fs v o.withoutLog rfl rfl, Overrides.withoutLog_add_logOnly]

theorem load_of_withoutLog_error {fs : FileSystem} {v : Variables} {o : Overrides}
    {fault : SettingsFault} (h : load fs v o.withoutLog = .error fault) :
    load fs v o = .error fault := by
  rw [load_eq_map_logOnly, h]
  rfl

theorem load_of_withoutLog_ok {fs : FileSystem} {v : Variables} {o : Overrides} {s : Settings}
    (h : load fs v o.withoutLog = .ok s) : load fs v o = .ok (s.withOverrides o.logOnly) := by
  rw [load_eq_map_logOnly, h]
  rfl

end Settings

/-- No command reads what the log options change. -/
theorem Command.answer_withOverrides_logOnly (fs : FileSystem) (s : Settings) (o : Overrides)
    (json : Bool) (c : Command) :
    c.answer fs (s.withOverrides o.logOnly) json = c.answer fs s json := by
  cases c <;> rfl

/-! ## the level -/

namespace Settings

/-- The level that verbose runs fall back on is a log filter. -/
theorem filter_verboseLevel (v : Variables) :
    filter (some verboseLevel) v = .ok ⟨[⟨none, none, [], .upTo .debug⟩]⟩ := by
  have htext : filterText (some verboseLevel) v = verboseLevel := rfl
  rw [filter, htext]
  rfl

/-- The level that other runs fall back on is one, too. -/
theorem filter_none {v : Variables} (h : v.logLevel? = none) :
    filter none v = .ok ⟨[⟨none, none, [], .upTo .warn⟩]⟩ := by
  have htext : filterText none v = defaultLevel := by simp [filterText, h]
  rw [filter, htext]
  rfl

/-- Where no level is settled on, the environment says none. -/
theorem logLevel?_variables_of_load {fs : FileSystem} {v : Variables} {o : Overrides}
    {s : Settings} (h : load fs v o = .ok s) (hlevel : s.logLevel? = none) :
    v.logLevel? = none := by
  obtain ⟨-, -, f, -, rfl, -⟩ := (load_eq_ok_iff fs v o s).mp h
  unfold layered at hlevel
  cases hv : v.logLevel? with
  | none => rfl
  | some level => cases ho : o.logLevel? <;> simp [ho, hv] at hlevel

/-- A level that being verbose sets is never refused, and neither is the lack of
one that it makes good. -/
theorem filter_withOverrides_eq_error_iff {fs : FileSystem} {v : Variables} {o d : Overrides}
    {s : Settings} (h : load fs v o = .ok s) (halt : Log.Halt SettingsFault) :
    filter (s.withOverrides d).logLevel? v = .error halt ↔
      filter (d.logLevel? <|> s.logLevel?) v = .error halt := by
  change filter (if d.verbose then some ((d.logLevel? <|> s.logLevel?).getD verboseLevel)
    else (d.logLevel? <|> s.logLevel?)) v = .error halt ↔ _
  cases d.verbose with
  | false => rfl
  | true =>
      cases hlevel : (d.logLevel? <|> s.logLevel?) with
      | some level => rfl
      | none =>
          have hs : s.logLevel? = none := by
            cases hd : d.logLevel? with
            | none => rwa [hd] at hlevel
            | some level => rw [hd] at hlevel; contradiction
          have hv : v.logLevel? = none := logLevel?_variables_of_load h hs
          simp [filter_none hv, filter_verboseLevel v]

end Settings

/-! ## two runs -/

/-- The log has no part in what else is printed. -/
theorem Outcome.stdout_answered (v : Variables) (result : Except Error String)
    (log log' : List String) :
    (answered result log).stdout v = (answered result log').stdout v := by
  cases result <;> rfl

theorem Outcome.stderr_answered (v : Variables) (result : Except Error String)
    (log log' : List String) :
    (answered result log).stderr v = (answered result log').stderr v := by
  cases result <;> rfl

/-- A run was neither refused nor did it break down before it started. -/
def Outcome.HasStarted (o : Outcome) : Prop := (∀ e, o ≠ .refused e) ∧ o ≠ .crashed

namespace CommandLine

/-- Two requests differ at most in what they say about the log. -/
structure Request.SameButLog (q q' : Request) : Prop where
  workspace : q'.overrides.workspace? = q.overrides.workspace?
  configFile : q'.overrides.configFile? = q.overrides.configFile?
  json : q'.json = q.json
  arguments : q'.arguments = q.arguments

theorem Request.SameButLog.withoutLog {q q' : Request} (h : q.SameButLog q') :
    q'.overrides.withoutLog = q.overrides.withoutLog := by
  rw [Overrides.withoutLog, h.workspace, h.configFile]
  rfl

end CommandLine

open CommandLine (Request)
open Settings (relocated)

namespace Run

/-- Run what a command line asks for. -/
def respond (fs : FileSystem) (v : Variables) (q : Request) : Outcome :=
  match prepare fs v q.overrides with
  | .error (.fault fault) => .refused (.settings fault)
  | .error .crash => .crashed
  | .ok (s, filter) => command fs s filter q.json (Command.ofArguments q.arguments)

theorem run_eq_respond {fs : FileSystem} {v : Variables} {words : List Bytes} {q : Request}
    (h : CommandLine.read v words = .ok q) : run fs v words = respond fs v q := by
  rw [run, h]
  rfl

variable {fs : FileSystem} {v : Variables}

theorem respond_eq_refused_iff (q : Request) (e : Error) :
    respond fs v q = .refused e ↔
      ∃ fault, prepare fs v q.overrides = .error (.fault fault) ∧ e = .settings fault := by
  unfold respond
  cases prepare fs v q.overrides with
  | error halt => cases halt <;> simp [eq_comm]
  | ok p => simp [command]

theorem respond_eq_crashed_iff (q : Request) :
    respond fs v q = .crashed ↔ prepare fs v q.overrides = .error .crash := by
  unfold respond
  cases prepare fs v q.overrides with
  | error halt => cases halt <;> simp
  | ok p => simp [command]

/-- A run starts where its settings load and its level parses. -/
theorem hasStarted_respond {q : Request} {s : Settings} {f : Log.Filter}
    (hload : Settings.load fs v q.overrides = .ok s)
    (hparse : Log.Filter.parse (Settings.filterText s.logLevel? v) = .ok f) :
    (respond fs v q).HasStarted := by
  have hfilter : Settings.filter s.logLevel? v = .ok f := by
    rw [Settings.filter, hparse]
    rfl
  have hprepare : prepare fs v q.overrides = .ok (s, f) := by
    rw [prepare_of_load_ok hload, hfilter]
    rfl
  rw [respond, hprepare]
  constructor
  · intro e hrefused
    contradiction
  · intro hcrashed
    contradiction

/-- A run that starts answers as if nothing had been said about the log. -/
theorem exists_answered_of_respond {q : Request} (h : (respond fs v q).HasStarted) :
    ∃ s, Settings.load fs v q.overrides.withoutLog = .ok s ∧
      respond fs v q = .answered ((Command.ofArguments q.arguments).answer fs s q.json)
        (respond fs v q).log := by
  cases hprepare : prepare fs v q.overrides with
  | error halt =>
      cases halt with
      | fault fault => exact absurd ((respond_eq_refused_iff q _).mpr ⟨fault, hprepare, rfl⟩) (h.1 _)
      | crash => exact absurd ((respond_eq_crashed_iff q).mpr hprepare) h.2
  | ok p =>
      have hload := load_of_prepare hprepare
      rw [Settings.load_eq_map_logOnly, map_eq_ok_iff] at hload
      obtain ⟨s, hs, hp⟩ := hload
      refine ⟨s, hs, ?_⟩
      rw [← Command.answer_withOverrides_logOnly fs s q.overrides, hp, respond, hprepare]
      rfl

/-- Once the settings of a run load, only the level that is set, if any, can
keep it from starting. -/
theorem prepare_eq_error_of_load {o : Overrides} {s : Settings}
    (h : Settings.load fs v o.withoutLog = .ok s) (halt : Log.Halt SettingsFault) :
    prepare fs v o = .error halt ↔
      Settings.filter (o.logLevel? <|> s.logLevel?) v = .error halt := by
  have hload := Settings.load_of_withoutLog_ok h
  have hfilter := Settings.filter_withOverrides_eq_error_iff (d := o.logOnly) h halt
  rw [Overrides.logLevel?_logOnly] at hfilter
  rw [prepare_of_load_ok hload, ← hfilter, map_eq_error_iff]

/-- What keeps a run from starting depends on the level alone of all that is
said about the log. -/
theorem prepare_eq_error_congr {o o' : Overrides} (hfiles : o'.withoutLog = o.withoutLog)
    (hlevel : o'.logLevel? = o.logLevel?) (halt : Log.Halt SettingsFault) :
    prepare fs v o' = .error halt ↔ prepare fs v o = .error halt := by
  cases hs : Settings.load fs v o.withoutLog with
  | error cause =>
      have hs' : Settings.load fs v o'.withoutLog = .error cause := by rw [hfiles, hs]
      rw [prepare_of_load_error (Settings.load_of_withoutLog_error hs),
        prepare_of_load_error (Settings.load_of_withoutLog_error hs')]
  | ok s =>
      have hs' : Settings.load fs v o'.withoutLog = .ok s := by rw [hfiles, hs]
      rw [prepare_eq_error_of_load hs, prepare_eq_error_of_load hs', hlevel]

/-- **Log options have no part in the answer.**  Of two requests that differ in
nothing else, if both runs start, they end with one exit code and one text on
either stream.  If the requests name the same level or none, one run starts where
the other does, and what keeps it from starting is the same. -/
theorem respond_log_options (fs : FileSystem) (v : Variables) {q q' : Request}
    (h : q.SameButLog q') :
    ((respond fs v q).HasStarted → (respond fs v q').HasStarted →
      (respond fs v q').exitCode = (respond fs v q).exitCode ∧
      (respond fs v q').stdout v = (respond fs v q).stdout v ∧
      (respond fs v q').stderr v = (respond fs v q).stderr v) ∧
    (q'.overrides.logLevel? = q.overrides.logLevel? →
      (∀ e, respond fs v q' = .refused e ↔ respond fs v q = .refused e) ∧
      (respond fs v q' = .crashed ↔ respond fs v q = .crashed)) ∧
    ∀ words r, CommandLine.read v words = .ok r → run fs v words = respond fs v r := by
  refine ⟨?_, ?_, fun words r => run_eq_respond⟩
  · intro hstarts hstarts'
    obtain ⟨s, hs, hq⟩ := exists_answered_of_respond hstarts
    obtain ⟨s', hs', hq'⟩ := exists_answered_of_respond hstarts'
    have hsame : s' = s := by
      rw [h.withoutLog, hs] at hs'
      injection hs' with hs'
      exact hs'.symm
    rw [hq, hq', hsame, h.json, h.arguments]
    exact ⟨rfl, Outcome.stdout_answered v _ _ _, Outcome.stderr_answered v _ _ _⟩
  · intro hlevel
    have hprepare : ∀ halt, prepare fs v q'.overrides = .error halt ↔
        prepare fs v q.overrides = .error halt := prepare_eq_error_congr h.withoutLog hlevel
    simp only [respond_eq_refused_iff, respond_eq_crashed_iff, hprepare, implies_true, and_self]

/-- Three runs: one that says nothing about the log, one that says all it can,
and a verbose one. -/
theorem respond_log_options_show :
    let v : Variables := { logFilter? := some (Bytes.ofText "error") }
    let q : Request := ⟨{}, false, ["show", "3"]⟩
    let full : Request :=
      ⟨{ logLevel? := some "analyze_catalog=trace", verbose := true, noColor := true }, false,
        ["show", "3"]⟩
    let verbose : Request := ⟨{ verbose := true }, false, ["show", "3"]⟩
    q.SameButLog full ∧ (respond relocated v q).HasStarted ∧
      (respond relocated v full).HasStarted ∧
      (respond relocated v full).stdout v = (respond relocated v q).stdout v ∧
      q.SameButLog verbose ∧ verbose.overrides.logLevel? = q.overrides.logLevel? ∧
      (respond relocated v verbose).HasStarted := by
  intro v q full verbose
  have hfull : q.SameButLog full := ⟨rfl, rfl, rfl, rfl⟩
  have hverbose : q.SameButLog verbose := ⟨rfl, rfl, rfl, rfl⟩
  have hload : Settings.load relocated v q.overrides = .ok ⟨Path.ofText "/b",
      some (Path.ofText "/a/.analyze-components.yaml"), some "error", false, false, 5000⟩ := by
    rfl
  have hload' : Settings.load relocated v full.overrides = .ok ⟨Path.ofText "/b",
      some (Path.ofText "/a/.analyze-components.yaml"), some "analyze_catalog=trace", true, true,
      5000⟩ := by rfl
  have hparse : Log.Filter.parse "error" = .ok ⟨[⟨none, none, [], .upTo .error⟩]⟩ := by rfl
  have hparse' : Log.Filter.parse "analyze_catalog=trace" =
      .ok ⟨[⟨some "analyze_catalog", none, [], .upTo .trace⟩]⟩ := by rfl
  have hstarts := hasStarted_respond hload hparse
  have hstarts' := hasStarted_respond hload' hparse'
  obtain ⟨hanswers, -, -⟩ := respond_log_options relocated v hfull
  obtain ⟨-, hkept, -⟩ := respond_log_options relocated v hverbose
  obtain ⟨hrefused, hcrashed⟩ := hkept rfl
  exact ⟨hfull, hstarts, hstarts', (hanswers hstarts hstarts').2.1, hverbose, rfl,
    fun e he => hstarts.1 e ((hrefused e).mp he), fun he => hstarts.2 (hcrashed.mp he)⟩

end Run

end ComponentBrowser
