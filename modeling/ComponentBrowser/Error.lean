import ComponentBrowser.Files.FileSystem
import ComponentBrowser.Log.Filter
import ComponentBrowser.Text.Decimal

/-!
# ComponentBrowser.Error

Everything that can go wrong, by cause, and the wording of each.  Four of the
causes are mistakes of the operator: they are answered on standard output and
do not fail the run.
-/

namespace ComponentBrowser

/-- Why a file does not give a text. -/
inductive TextFault where
  | unread (cause : ReadError)
  | notText
  deriving DecidableEq

/-- The description of a text that could not be had. -/
def TextFault.message : TextFault → String
  | .unread cause => cause.message
  | .notText => "stream did not contain valid UTF-8"

/-- Why the settings or the log they ask for cannot be had. -/
inductive SettingsFault where
  /-- The workspace is not a directory. -/
  | workspaceMissing (workspace : Path)
  /-- The settings file that was named is not a regular file. -/
  | fileMissing (file : Path)
  | fileUnreadable (file : Path) (cause : TextFault)
  | fileUnparsable (file : Path) (detail : String)
  /-- A preview of no characters was asked for. -/
  | emptyPreview
  | badFilter (filter : String) (cause : Log.FilterFault)
  /-- The log of this process was set up before. -/
  | logInstalled
  /-- Any other cause, by its description. -/
  | other (description : String)
  deriving DecidableEq

/-- The description of a fault in the settings. -/
def SettingsFault.message : SettingsFault → String
  | .workspaceMissing workspace => "Workspace directory does not exist: " ++ workspace.quoted
  | .fileMissing file => "Config file not found: " ++ file.quoted
  | .fileUnreadable file cause =>
    "Failed to read config file " ++ file.quoted ++ ": " ++ cause.message
  | .fileUnparsable file detail =>
    "Failed to parse config file " ++ file.quoted ++ ": " ++ detail
  | .emptyPreview => "preview.chars must be greater than zero"
  | .badFilter filter cause => "Invalid log filter '" ++ filter ++ "': " ++ cause.message
  | .logInstalled =>
    "Failed to init logging: a global default trace dispatcher has already been set"
  | .other description => description

/-- Everything that can go wrong. -/
inductive Error where
  /-- An index with no component. -/
  | invalidIndex (index : Int)
  /-- A component whose file is missing from the workspace. -/
  | componentNotFound (filename : String)
  /-- A text that does not read as an index. -/
  | malformedIndex (text : String)
  /-- An unknown command, or one without the argument it needs. -/
  | unrecognizedCommand (token : String)
  | settings (fault : SettingsFault)
  | io (cause : ReadError)
  | serialization (detail : String)
  deriving DecidableEq

namespace Error

/-- What the operator is told. -/
def message : Error → String
  | invalidIndex _ => "Invalid component index!"
  | componentNotFound filename => "File " ++ filename ++ " not found!"
  | malformedIndex _ => "Please provide a valid component index!"
  | unrecognizedCommand _ => "Invalid command!"
  | settings fault => "Configuration error: " ++ fault.message
  | io cause => "I/O error: " ++ cause.message
  | serialization detail => "Serialization error: " ++ detail

/-- An error as log fields show it. -/
def inspect : Error → String
  | invalidIndex index => "InvalidIndex(" ++ Decimal.renderInt index ++ ")"
  | componentNotFound filename => "ComponentNotFound(" ++ Text.quoted filename ++ ")"
  | malformedIndex text => "MalformedIndex(" ++ Text.quoted text ++ ")"
  | unrecognizedCommand token => "UnrecognizedCommand(" ++ Text.quoted token ++ ")"
  | settings fault => "Config(" ++ Text.quoted fault.message ++ ")"
  | io cause => "Io(" ++ cause.inspect ++ ")"
  | serialization detail => "Serialization(" ++ Text.quoted detail ++ ")"

/-- Whether an error is a mistake of the operator. -/
def isUserFacing : Error → Bool
  | invalidIndex _ | componentNotFound _ | malformedIndex _ | unrecognizedCommand _ => true
  | settings _ | io _ | serialization _ => false

end Error

end ComponentBrowser
