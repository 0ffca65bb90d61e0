import ComponentBrowser.Catalog.Index
import ComponentBrowser.Catalog.Preview
import ComponentBrowser.Json.Printer
import ComponentBrowser.Prompt
import ComponentBrowser.Settings.Basic

/-!
# ComponentBrowser.Command

The commands: which one a list of arguments stands for, what it answers, and
what it reports to the log on the way.

* `ofArguments_append` — arguments that a command does not need are ignored.
-/

namespace ComponentBrowser

/-- What the operator asks for. -/
inductive Command where
  /-- Nothing: how the program is used. -/
  | usage
  | list
  /-- The preview of a component, by its index as it was typed. -/
  | preview (index : String)
  /-- The prompt for a topic. -/
  | prompt (topic : String)
  /-- What is no command, or lacks its argument. -/
  | unknown (token : String)
  deriving DecidableEq, Repr

namespace Command

/-- The command that arguments stand for. -/
def ofArguments : List String → Command
  | [] => usage
  | command :: rest =>
    if command = "list" then list
    else if command = "show" then (rest.head?.map preview).getD (unknown command)
    else if command = "prompt" then (rest.head?.map prompt).getD (unknown command)
    else unknown command

/-- The name of a command in the log. -/
def name : Command → String
  | usage => "usage"
  | list => "list"
  | preview _ => "show"
  | prompt _ => "prompt"
  | unknown _ => "unknown"

/-- The name of the program. -/
def program : String := "analyze-components"

/-- How the program is used. -/
def usageText : String :=
  "\nUsage:\n" ++
    "  " ++ program ++ " list           - List all components\n" ++
    "  " ++ program ++ " show <index>   - Show component content\n" ++
    "  " ++ program ++ " prompt <type>  - Get analysis prompt\n" ++
    "\nExample:\n" ++
    "  " ++ program ++ " list\n" ++
    "  " ++ program ++ " show 3\n" ++
    "  " ++ program ++ " prompt btree\n"

/-! ## answers -/

/-- A JSON document as an answer. -/
def jsonText (v : Json) : String := v.pretty ++ "\n"

/-- The listing of the catalog, as text or as JSON. -/
def listText (fs : FileSystem) (workspace : Path) (json : Bool) : String :=
  let listing := Listing.all fs workspace
  if json then jsonText (Listing.listToJson listing) else Listing.render listing

/-- The preview of the component whose index was typed. -/
def loadPreview (fs : FileSystem) (s : Settings) (index : String) : Except Error Preview := do
  Preview.load fs s.workspace (← Component.Index.parse index) s.previewChars

/-- The prompt for a topic, as text or as JSON. -/
def promptText (p : Prompt) (json : Bool) : String :=
  if json then jsonText p.toJson
  else Section.header ("ANALYSIS PROMPT FOR: " ++ p.topic) ++ p.text ++ "\n"

/-- What a command answers. -/
def answer (fs : FileSystem) (s : Settings) (json : Bool) : Command → Except Error String
  | usage => .ok usageText
  | list => .ok (listText fs s.workspace json)
  | preview index => (loadPreview fs s index).map Preview.render
  | prompt topic => .ok (promptText (Prompt.resolve topic) json)
  | unknown token => .error (.unrecognizedCommand token)

/-! ## in the log -/

/-- What the listing of a workspace reports. -/
def listEvents (fs : FileSystem) (workspace : Path) : List Log.Event :=
  let listing := Listing.all fs workspace
  let present := (listing.filter (·.size?.isSome)).length
  let target := "analyze_components::commands::list"
  [{ level := .info, target, message := "Executing list command" },
   { level := .debug, target, message := "Workspace: " ++ workspace.quoted }] ++
  listing.map (Listing.probed workspace) ++
  [{ level := .debug, target, message := "Components on disk"
     fields :=
      [("present", Decimal.render present), ("total", Decimal.render listing.length)] }]

/-- What a preview reports. -/
def previewEvents (fs : FileSystem) (s : Settings) (index : String) : List Log.Event :=
  { level := .info
    target := "analyze_components::commands::show"
    message := "Executing show command for index " ++ Text.quoted index } ::
  Preview.reported s.workspace (loadPreview fs s index)

/-- What a prompt reports. -/
def promptEvents (topic : String) : List Log.Event :=
  { level := .info
    target := "analyze_components::commands::prompt"
    message := "Executing prompt command for topic '" ++ topic ++ "'" } ::
  (Prompt.resolve topic).reported

/-- What a command reports while it works. -/
def events (fs : FileSystem) (s : Settings) : Command → List Log.Event
  | usage => []
  | list => listEvents fs s.workspace
  | preview index => previewEvents fs s index
  | prompt topic => promptEvents topic
  | unknown _ => []

/-! ## arguments -/

theorem ofArguments_append (command argument : String) (rest : List String) :
    ofArguments (command :: argument :: rest) = ofArguments [command, argument] := by
  simp [ofArguments]

end Command

end ComponentBrowser
