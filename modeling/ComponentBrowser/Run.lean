import ComponentBrowser.CommandLine.Reader

/-!
# ComponentBrowser.Run

A whole run of the program: from its words, its environment and the file system
to what it prints, what it logs and how it exits.

Standard output is for answers and for mistakes of the operator; all else goes
to standard error.  Only a run that cannot start fails, or one that breaks down
over its log filter.  The report of that is not the program's own: it is left
out here.
-/

namespace ComponentBrowser

/-- How a run ends. -/
inductive Outcome where
  /-- Something was said in place of running a command. -/
  | noticed (n : CommandLine.Notice)
  /-- The settings or the log could not be had. -/
  | refused (cause : Error)
  /-- The program broke down over its log filter. -/
  | crashed
  /-- A command was run; the lines of the log. -/
  | answered (result : Except Error String) (log : List String)

namespace Run

/-- The span that a command stands in. -/
def span (c : Command) : Log.Span where
  level := .info
  target := "analyze_components"
  name := "command"
  fields := [("name", c.name)]

/-- What is reported before a command. -/
def openingEvents (s : Settings) : List Log.Event :=
  [{ level := .debug
     target := "analyze_components"
     message := "Workspace: " ++ s.workspace.quoted },
   { level := .debug
     target := "analyze_components"
     message := "Config file: " ++ Listing.inspectOption (s.configFile?.map Path.quoted) }]

/-- What is reported after a command. -/
def closingEvent (result : Except Error String) : Log.Event :=
  match result with
  | .ok _ =>
    { level := .info
      target := "analyze_components"
      message := "Command completed successfully" }
  | .error e =>
    { level := .debug
      target := "analyze_components"
      message := if e.isUserFacing then "Command rejected" else "Command failed"
      fields := [("error", e.inspect)] }

/-- Run a command with settings and a log filter. -/
def command (fs : FileSystem) (s : Settings) (filter : Log.Filter) (json : Bool) (c : Command) :
    Outcome :=
  let result := c.answer fs s json
  .answered result
    (filter.lines none (openingEvents s) ++
      filter.lines (some (span c)) (c.events fs s ++ [closingEvent result]))

/-- The settings and the log filter of a run. -/
def prepare (fs : FileSystem) (v : Variables) (o : Overrides) :
    Except (Log.Halt SettingsFault) (Settings × Log.Filter) := do
  let s ← (Settings.load fs v o).mapError .fault
  let filter ← Settings.filter s.logLevel? v
  pure (s, filter)

end Run

/-- Run the program with words behind its name. -/
def run (fs : FileSystem) (v : Variables) (words : List Bytes) : Outcome :=
  match CommandLine.read v words with
  | .error n => .noticed n
  | .ok request =>
    match Run.prepare fs v request.overrides with
    | .error (.fault fault) => .refused (.settings fault)
    | .error .crash => .crashed
    | .ok (s, filter) =>
      Run.command fs s filter request.json (Command.ofArguments request.arguments)

namespace Outcome

/-- The exit code. -/
def exitCode : Outcome → Nat
  | noticed _ => 0
  | refused _ => 1
  | crashed => 101
  | answered _ _ => 0

/-- What is printed to standard output. -/
def stdout (v : Variables) : Outcome → String
  | noticed n => if n.isRequested then n.text v else ""
  | refused _ | crashed => ""
  | answered (.ok text) _ => text
  | answered (.error e) _ => if e.isUserFacing then e.message ++ "\n" else ""

/-- What the program prints to standard error behind the log. -/
def stderr (v : Variables) : Outcome → String
  | noticed n => if n.isRequested then "" else n.text v
  | refused cause => "Error: " ++ cause.inspect ++ "\n"
  | crashed => ""
  | answered (.ok _) _ => ""
  | answered (.error e) _ => if e.isUserFacing then "" else e.message ++ "\n"

/-- The lines of the log. -/
def log : Outcome → List String
  | answered _ log => log
  | _ => []

end Outcome

end ComponentBrowser
