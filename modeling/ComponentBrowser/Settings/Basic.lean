import ComponentBrowser.Error

/-!
# ComponentBrowser.Settings.Basic

The settings of a run, and what the command line lays over them.

* `withOverrides_none` — an empty layer changes nothing;
* `validate_eq_ok_iff` — settings are valid exactly when previews have room
  for a character and the workspace is a directory.
-/

namespace ComponentBrowser

/-- The settings of a run. -/
structure Settings where
  /-- The directory that holds the files of the components. -/
  workspace : Path
  /-- The settings file that was read or named. -/
  configFile? : Option Path
  /-- The log filter, if one is set. -/
  logLevel? : Option String
  verbose : Bool
  /-- Whether the log is written without colours. -/
  noColor : Bool
  /-- How many characters of a file a preview shows. -/
  previewChars : Nat
  deriving DecidableEq

/-- What the command line says about the settings. -/
structure Overrides where
  workspace? : Option Path := none
  configFile? : Option Path := none
  logLevel? : Option String := none
  verbose : Bool := false
  noColor : Bool := false
  deriving DecidableEq

namespace Settings

/-- How many characters a preview shows unless set otherwise. -/
def defaultPreviewChars : Nat := 5000

/-- The settings before anything is read: the current directory is the
workspace. -/
def initial (fs : FileSystem) : Settings :=
  ⟨fs.currentDirectory, none, none, false, false, defaultPreviewChars⟩

/-- The log filter that verbose runs use unless one is set. -/
def verboseLevel : String := "debug"

/-- The settings with what the command line says. -/
def withOverrides (s : Settings) (o : Overrides) : Settings :=
  let level? := o.logLevel? <|> s.logLevel?
  { workspace := o.workspace?.getD s.workspace
    configFile? := o.configFile? <|> s.configFile?
    logLevel? := if o.verbose then some (level?.getD verboseLevel) else level?
    verbose := o.verbose || s.verbose
    noColor := o.noColor || s.noColor
    previewChars := s.previewChars }

/-- Whether a run can work with the settings. -/
def validate (fs : FileSystem) (s : Settings) : Except SettingsFault Unit :=
  if s.previewChars = 0 then .error .emptyPreview
  else if fs.isDirectory s.workspace then .ok ()
  else .error (.workspaceMissing s.workspace)

@[simp] theorem withOverrides_none (s : Settings) : s.withOverrides {} = s := by
  simp [withOverrides]

theorem validate_eq_ok_iff (fs : FileSystem) (s : Settings) :
    s.validate fs = .ok () ↔ 0 < s.previewChars ∧ fs.isDirectory s.workspace = true := by
  unfold validate
  by_cases hchars : s.previewChars = 0
  · simp [hchars]
  · have hpos : 0 < s.previewChars := by omega
    by_cases hdir : fs.isDirectory s.workspace = true <;> simp [hchars, hdir, hpos]

end Settings

end ComponentBrowser
