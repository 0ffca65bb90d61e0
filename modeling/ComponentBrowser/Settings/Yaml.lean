import ComponentBrowser.Settings.Basic
import ComponentBrowser.Yaml.Reading

/-!
# ComponentBrowser.Settings.Yaml

Settings files, which say some of the settings under the headings `workspace`,
`logging` and `preview`; and complete settings written as YAML.
-/

namespace ComponentBrowser

open Yaml (Document Fault Node)

/-- What a settings file says. -/
structure FileSettings where
  workspace? : Option String := none
  level? : Option String := none
  /-- Whether the log is written in colours. -/
  color? : Option Bool := none
  previewChars? : Option Nat := none
  deriving DecidableEq

namespace FileSettings

/-- What stands under the heading for the workspace. -/
def workspaceOf (d : Document) (n : Node) : Except Fault (Option String) := do
  d.optionalMember d.text (← d.members ["path"] n) "path"

/-- What stands under the heading for the log. -/
def loggingOf (d : Document) (n : Node) : Except Fault (Option String × Option Bool) := do
  let members ← d.members ["level", "color"] n
  let level? ← d.optionalMember d.text members "level"
  let color? ← d.optionalMember d.flag members "color"
  pure (level?, color?)

/-- What stands under the heading for previews. -/
def previewOf (d : Document) (n : Node) : Except Fault (Option Nat) := do
  d.optionalMember d.count (← d.members ["chars"] n) "chars"

/-- What a document says. -/
def ofDocument (d : Document) : Except Fault FileSettings := do
  let members ← d.members ["workspace", "logging", "preview"] d.root
  let workspace? ← d.optionalMember (workspaceOf d) members "workspace"
  let logging? ← d.optionalMember (loggingOf d) members "logging"
  let preview? ← d.optionalMember (previewOf d) members "preview"
  pure
    { workspace? := workspace?.join
      level? := logging?.bind (·.1)
      color? := logging?.bind (·.2)
      previewChars? := preview?.join }

/-- What the text of a settings file says. -/
def parse (s : String) : Except Fault FileSettings := do ofDocument (← Document.parse s)

end FileSettings

namespace Settings

/-- The members of complete settings. -/
def memberNames : List String :=
  ["workspace", "config_file", "log_level", "verbose", "no_color", "preview_chars"]

/-- Complete settings from a YAML text. -/
def ofYaml (s : String) : Except Fault Settings := do
  let d ← Document.parse s
  let members ← d.members memberNames d.root
  let workspace ← Document.requiredMember d.text members "workspace"
  let configFile? ← d.optionalMember d.text members "config_file"
  let logLevel? ← d.optionalMember d.text members "log_level"
  let verbose ← Document.requiredMember d.flag members "verbose"
  let noColor ← Document.requiredMember d.flag members "no_color"
  let previewChars ← Document.requiredMember d.count members "preview_chars"
  pure ⟨Path.ofText workspace, configFile?.map Path.ofText, logLevel?, verbose, noColor,
    previewChars⟩

end Settings

end ComponentBrowser
