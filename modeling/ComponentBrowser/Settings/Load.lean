import ComponentBrowser.Settings.Yaml

/-!
# ComponentBrowser.Settings.Load

The settings of a run from all that has a say in them, each layer over the ones
before: the defaults, the settings file, the environment, the command line.
The workspace is settled first, since it may hold the settings file.

* `validate_of_load` — settings that load are valid.
-/

namespace ComponentBrowser

/-- The environment variables that settings come from, by their bytes. -/
structure Variables where
  /-- `ANALYZE_WORKSPACE`. -/
  workspace? : Option Bytes := none
  /-- `ANALYZE_CONFIG`. -/
  configFile? : Option Bytes := none
  /-- `RUST_LOG`. -/
  logFilter? : Option Bytes := none
  /-- `NO_COLOR`. -/
  noColor? : Option Bytes := none
  deriving DecidableEq

namespace Variables

/-- The log filter of the environment, if it is text. -/
def logLevel? (v : Variables) : Option String := v.logFilter?.bind Bytes.toText?

end Variables

namespace Settings

/-- The name of the settings file that is looked for in the workspace. -/
def fileName : String := ".analyze-components.yaml"

/-- The log filter of runs that set none. -/
def defaultLevel : String := "warn"

/-- The settings with what a settings file says. -/
def withFile (s : Settings) (f : FileSettings) : Settings :=
  { s with
    workspace := (f.workspace?.map Path.ofText).getD s.workspace
    logLevel? := f.level? <|> s.logLevel?
    noColor := (f.color?.map not).getD s.noColor
    previewChars := f.previewChars?.getD s.previewChars }

/-- The settings with what the environment says. -/
def withVariables (s : Settings) (v : Variables) : Settings :=
  { s with
    workspace := (v.workspace?.map Path.mk).getD s.workspace
    logLevel? := v.logLevel? <|> s.logLevel?
    noColor := v.noColor?.isSome || s.noColor }

/-- Read a settings file. -/
def readFile (fs : FileSystem) (file : Path) : Except SettingsFault FileSettings :=
  match fs.read file with
  | .error cause => .error (.fileUnreadable file (.unread cause))
  | .ok content =>
    match content.toText? with
    | none => .error (.fileUnreadable file .notText)
    | some text =>
      match FileSettings.parse text with
      | .ok f => .ok f
      | .error fault => .error (.fileUnparsable file fault.message)

/-- The settings file to read: the one that is named, which has to be there,
or the one in the workspace, if there is one. -/
def findFile? (fs : FileSystem) (workspace : Path) (named? : Option Path) :
    Except SettingsFault (Option Path) :=
  match named? with
  | some file => if fs.isFile file then .ok (some file) else .error (.fileMissing file)
  | none =>
    let file := workspace.join (Path.ofText fileName)
    .ok (if fs.isFile file then some file else none)

/-- Load the settings of a run. -/
def load (fs : FileSystem) (v : Variables) (o : Overrides) : Except SettingsFault Settings := do
  let initial := Settings.initial fs
  let workspace := (o.workspace? <|> v.workspace?.map Path.mk).getD initial.workspace
  let s := { initial with workspace }
  if !fs.isDirectory workspace then .error (.workspaceMissing workspace)
  else
    let file? ← findFile? fs workspace (o.configFile? <|> v.configFile?.map Path.mk)
    let s ← match file? with
      | some file => (readFile fs file).map fun f => { s.withFile f with configFile? := some file }
      | none => .ok s
    let s := (s.withVariables v).withOverrides o
    s.validate fs
    pure s

/-! ## the log -/

/-- The log filter that applies: the one of the settings, then the one of the
environment, then the default. -/
def filterText (level? : Option String) (v : Variables) : String :=
  (level? <|> v.logLevel?).getD defaultLevel

/-- The log filter of a run. -/
def filter (level? : Option String) (v : Variables) :
    Except (Log.Halt SettingsFault) Log.Filter :=
  let text := filterText level? v
  (Log.Filter.parse text).mapError (Log.Halt.map (.badFilter text))

/-! ## validity -/

theorem validate_of_load {fs : FileSystem} {v : Variables} {o : Overrides} {s : Settings}
    (h : load fs v o = .ok s) : s.validate fs = .ok () := by
  unfold load at h
  simp only [bind, Except.bind, pure, Except.pure] at h
  repeat' split at h
  all_goals first
    | contradiction
    | (injection h with h; subst h; assumption)

end Settings

end ComponentBrowser
