import ComponentBrowser.Proofs.Settings.Layers
import ComponentBrowser.Session

/-!
# ComponentBrowser.Proofs.Settings.History

What holds of the current settings, whatever has happened before: previews have
room for a character, and a verbose run has a log filter.  So the settings can
only be invalid for want of their workspace, and that depends on the files of
the moment alone.

`Settings.Sound` is the invariant.  It is stated over *moments*: the files may
change in any way between two of them, while settings are loaded and overridden.
A session is one way in which moments follow each other.

* `Moment.sound_after` — the invariant holds at every moment;
* `Moment.validity_at_every_moment` — what validation says at every moment;
* `Session.moment_after` — a session replays a series of events.
-/

namespace ComponentBrowser

/-! ## the invariant -/

/-- What holds of settings however they have come about. -/
structure Settings.Sound (s : Settings) : Prop where
  previewChars_pos : 0 < s.previewChars
  isSome_logLevel? : s.verbose = true → s.logLevel?.isSome = true

namespace Settings

theorem sound_initial (fs : FileSystem) : (initial fs).Sound where
  previewChars_pos := show 0 < defaultPreviewChars by decide
  isSome_logLevel? h := by contradiction

theorem Sound.withOverrides {s : Settings} (hs : s.Sound) (o : Overrides) :
    (s.withOverrides o).Sound where
  previewChars_pos := hs.previewChars_pos
  isSome_logLevel? h := by
    change (o.verbose || s.verbose) = true at h
    change (if o.verbose then some ((o.logLevel? <|> s.logLevel?).getD verboseLevel)
      else (o.logLevel? <|> s.logLevel?)).isSome = true
    cases ho : o.verbose with
    | true => rfl
    | false =>
        rw [ho, Bool.false_or] at h
        have hlevel := hs.isSome_logLevel? h
        cases o.logLevel? with
        | some level => rfl
        | none => exact hlevel

/-- The level that the layers make is there if they are verbose. -/
theorem isSome_logLevel?_layered (fs : FileSystem) (v : Variables) (o : Overrides)
    (file? : Option Path) (f : FileSettings) (h : o.verbose = true) :
    (layered fs v o file? f).logLevel?.isSome = true := by
  unfold layered
  rw [h]
  cases o.logLevel? <;> cases v.logLevel? <;> cases f.level? <;> rfl

theorem sound_of_load {fs : FileSystem} {v : Variables} {o : Overrides} {s : Settings}
    (h : load fs v o = .ok s) : s.Sound := by
  obtain ⟨-, -, f, -, rfl, hvalid⟩ := (load_eq_ok_iff fs v o s).mp h
  exact ⟨((validate_eq_ok_iff fs _).mp hvalid).1, isSome_logLevel?_layered fs v o _ f⟩

/-- Sound settings want for nothing but their workspace. -/
theorem Sound.validate_eq {s : Settings} (hs : s.Sound) (fs : FileSystem) :
    s.validate fs =
      if fs.isDirectory s.workspace then .ok () else .error (.workspaceMissing s.workspace) := by
  have hchars : s.previewChars ≠ 0 := Nat.pos_iff_ne_zero.mp hs.previewChars_pos
  rw [validate, if_neg hchars]

theorem Sound.validate_eq_error_iff {s : Settings} (hs : s.Sound) (fs : FileSystem)
    (fault : SettingsFault) :
    s.validate fs = .error fault ↔
      fs.isDirectory s.workspace = false ∧ fault = .workspaceMissing s.workspace := by
  rw [hs.validate_eq]
  cases fs.isDirectory s.workspace <;> simp [eq_comm]

end Settings

/-! ## moments -/

/-- The files as they are at a moment, and the settings that are current. -/
structure Moment where
  fs : FileSystem
  settings : Settings

namespace Moment

/-- What can happen between two moments. -/
inductive Event where
  /-- The files become others, by whatever writes and removals. -/
  | files (fs : FileSystem)
  /-- Settings are loaded; if they load, they become the current ones. -/
  | load (v : Variables) (o : Overrides)
  | override (o : Overrides)

/-- Before anything happens, the default settings are current. -/
def start (fs : FileSystem) : Moment := ⟨fs, Settings.initial fs⟩

/-- The moment after an event. -/
def next (m : Moment) : Event → Moment
  | .files fs => { m with fs }
  | .load v o =>
    match Settings.load m.fs v o with
    | .ok settings => { m with settings }
    | .error _ => m
  | .override o => { m with settings := m.settings.withOverrides o }

/-- The moment after a series of events. -/
def after (m : Moment) (events : List Event) : Moment := events.foldl next m

theorem after_append (m : Moment) (first second : List Event) :
    m.after (first ++ second) = (m.after first).after second := List.foldl_append

theorem next_load_of_ok {m : Moment} {v : Variables} {o : Overrides} {s : Settings}
    (h : Settings.load m.fs v o = .ok s) : m.next (.load v o) = { m with settings := s } := by
  rw [next, h]

theorem next_load_of_error {m : Moment} {v : Variables} {o : Overrides} {fault : SettingsFault}
    (h : Settings.load m.fs v o = .error fault) : m.next (.load v o) = m := by
  rw [next, h]

/-- Every event keeps the invariant. -/
theorem sound_next {m : Moment} (hm : m.settings.Sound) (event : Event) :
    (m.next event).settings.Sound := by
  cases event with
  | files fs => exact hm
  | load v o =>
      cases hload : Settings.load m.fs v o with
      | ok s =>
          rw [next_load_of_ok hload]
          exact Settings.sound_of_load hload
      | error fault =>
          rw [next_load_of_error hload]
          exact hm
  | override o => exact hm.withOverrides o

theorem sound_after {m : Moment} (hm : m.settings.Sound) (events : List Event) :
    (m.after events).settings.Sound := by
  induction events generalizing m with
  | nil => exact hm
  | cons event events ih => exact ih (sound_next hm event)

/-- **At every moment** the current settings are sound, validation fails only
for want of the workspace and exactly where it is no directory, and settings
that have just been loaded are valid. -/
theorem validity_at_every_moment (fs : FileSystem) (events : List Event) :
    let m := (start fs).after events
    0 < m.settings.previewChars ∧
    (m.settings.verbose = true → m.settings.logLevel?.isSome = true) ∧
    (∀ fault, m.settings.validate m.fs = .error fault ↔
      m.fs.isDirectory m.settings.workspace = false ∧
        fault = .workspaceMissing m.settings.workspace) ∧
    (∀ fault, m.settings.validate m.fs = .error fault →
      fault.message =
        "Workspace directory does not exist: " ++ m.settings.workspace.quoted) ∧
    (∀ v o s, Settings.load m.fs v o = .ok s →
      m.next (.load v o) = { m with settings := s } ∧ s.validate m.fs = .ok ()) ∧
    (∀ v o fault, Settings.load m.fs v o = .error fault → m.next (.load v o) = m) := by
  intro m
  have hm : m.settings.Sound := sound_after (Settings.sound_initial fs) events
  refine ⟨hm.previewChars_pos, hm.isSome_logLevel?, hm.validate_eq_error_iff m.fs, ?_, ?_, ?_⟩
  · intro fault h
    rw [((hm.validate_eq_error_iff m.fs fault).mp h).2]
    rfl
  · intro v o s h
    exact ⟨next_load_of_ok h, Settings.validate_of_load h⟩
  · intro v o fault h
    exact next_load_of_error h

/-- Settings that were loaded for a verbose run lose their workspace, outlive
a load that fails, and are then no longer valid. -/
theorem validity_at_every_moment_lost :
    let gone : FileSystem := ⟨Path.ofText "/", fun _ => none⟩
    let m := (start Settings.relocated).after
      [.load {} { verbose := true }, .files gone, .load {} {}, .override { noColor := true }]
    0 < m.settings.previewChars ∧ m.settings.verbose = true ∧
      m.settings.logLevel?.isSome = true ∧
      m.settings.validate m.fs = .error (.workspaceMissing (Path.ofText "/b")) := by
  intro gone m
  obtain ⟨hchars, hlevel, hfault, -⟩ := validity_at_every_moment Settings.relocated
    [.load {} { verbose := true }, .files gone, .load {} {}, .override { noColor := true }]
  have hverbose : m.settings.verbose = true := by rfl
  have hmissing : m.fs.isDirectory m.settings.workspace = false := by rfl
  have hworkspace : m.settings.workspace = Path.ofText "/b" := by rfl
  refine ⟨hchars, hverbose, hlevel hverbose, (hfault _).mpr ⟨hmissing, ?_⟩⟩
  rw [← hworkspace]

end Moment

/-! ## sessions -/

namespace Session

open Moment (Event)

/-- The session after a series of operations. -/
def after (s : Session) (steps : List Step) : Session := steps.foldl step s

/-- The moment that a session is in. -/
def moment (s : Session) : Moment := ⟨s.fs, s.settings⟩

/-- What an operation does to the files and the settings, if anything. -/
def event? (s : Session) : Step → Option Event
  | .write p node => some (.files (s.step (.write p node)).fs)
  | .remove p => some (.files (s.step (.remove p)).fs)
  | .load v o => some (.load v o)
  | .override o => some (.override o)
  | .validate | .command _ _ | .program _ _ _ => none

/-- The events of a series of operations. -/
def events (s : Session) : List Step → List Event
  | [] => []
  | step :: rest => (s.event? step).toList ++ (s.step step).events rest

theorem moment_step (s : Session) (step : Step) :
    (s.step step).moment = s.moment.after (s.event? step).toList := by
  cases step with
  | load v o =>
      change (s.step (.load v o)).moment = s.moment.next (.load v o)
      cases hload : Settings.load s.fs v o with
      | ok settings =>
          rw [Moment.next_load_of_ok (m := s.moment) hload, Session.step, hload]
          rfl
      | error fault =>
          rw [Moment.next_load_of_error (m := s.moment) hload, Session.step, hload]
  | _ => rfl

/-- A session replays a series of events. -/
theorem moment_after (s : Session) (steps : List Step) :
    (s.after steps).moment = s.moment.after (s.events steps) := by
  induction steps generalizing s with
  | nil => rfl
  | cons step rest ih =>
      calc ((s.step step).after rest).moment
          = (s.step step).moment.after ((s.step step).events rest) := ih (s.step step)
        _ = (s.moment.after (s.event? step).toList).after ((s.step step).events rest) := by
            rw [moment_step]
        _ = s.moment.after (s.events (step :: rest)) := (Moment.after_append _ _ _).symm

/-- What a session answers to `validate`, whatever has been done in it. -/
theorem answer_validate_after (tree : Tree) (directory : Place) (steps : List Step) :
    let s := (start tree directory).after steps
    s.answer .validate = .validity (if s.fs.isDirectory s.settings.workspace then .ok ()
      else .error (.workspaceMissing s.settings.workspace)) := by
  intro s
  have hs : s.moment.settings.Sound := by
    rw [moment_after]
    exact Moment.sound_after (Settings.sound_initial (start tree directory).fs) _
  exact congrArg Answer.validity (hs.validate_eq s.fs)

end Session

end ComponentBrowser
