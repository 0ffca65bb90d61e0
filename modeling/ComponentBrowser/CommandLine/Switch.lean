import ComponentBrowser.Text.Similarity

/-!
# ComponentBrowser.CommandLine.Switch

The switches of the command line: their names, and which of them take a value.
-/

namespace ComponentBrowser.CommandLine

/-- A switch. -/
inductive Switch where
  | workspace
  | config
  | logLevel
  | verbose
  | noColor
  | json
  | help
  | version
  deriving DecidableEq, Repr

namespace Switch

/-- All switches, in the order in which the help lists them. -/
def all : List Switch := [workspace, config, logLevel, verbose, noColor, json, help, version]

/-- The long name, without its two dashes. -/
def longName : Switch → String
  | workspace => "workspace"
  | config => "config"
  | logLevel => "log-level"
  | verbose => "verbose"
  | noColor => "no-color"
  | json => "json"
  | help => "help"
  | version => "version"

/-- The short name, if there is one. -/
def shortName? : Switch → Option Char
  | workspace => some 'w'
  | config => some 'c'
  | verbose => some 'v'
  | help => some 'h'
  | version => some 'V'
  | logLevel | noColor | json => none

/-- What the value of a switch is called, if it takes one. -/
def valueName? : Switch → Option String
  | workspace => some "WORKSPACE"
  | config => some "CONFIG"
  | logLevel => some "LOG_LEVEL"
  | _ => none

/-- Whether a switch takes a value. -/
def takesValue (s : Switch) : Bool := s.valueName?.isSome

/-- A switch as messages show it. -/
def label (s : Switch) : String :=
  "--" ++ s.longName ++ ((s.valueName?.map fun v => " <" ++ v ++ ">").getD "")

/-- The switch with a long name. -/
def ofLongName? (name : String) : Option Switch := all.find? (·.longName == name)

/-- The switch with a short name. -/
def ofShortName? (c : Char) : Option Switch := all.find? (·.shortName? == some c)

/-- Whether a switch only asks for something to be said. -/
def isQuestion : Switch → Bool
  | help | version => true
  | _ => false

/-- How similar a long name has to be to be meant. -/
def leastSimilarity : Binary64 := Binary64.ofRatio ⟨7, 10⟩

/-- The switch with the long name most similar to a name; of equally similar
ones the last. -/
def similar? (name : String) : Option Switch :=
  let score := fun (s : Switch) => Text.similarity name.toList s.longName.toList
  (all.filter fun s => leastSimilarity.isLess (score s)).foldl (fun best s =>
    match best with
    | none => some s
    | some b => if (score s).isLess (score b) then some b else some s) none

/-- What a switch does, in one line. -/
def description : Switch → String
  | workspace => "Directory holding the component files (default: current directory)"
  | config => "Path to config file"
  | logLevel => "Log level (error, warn, info, debug, trace)"
  | verbose => "Enable verbose output (sets log level to debug)"
  | noColor => "Disable colored output"
  | json => "Output as JSON (list and prompt)"
  | help => "Print help"
  | version => "Print version"

/-- The environment variable that stands in for a switch, if there is one. -/
def standIn? : Switch → Option String
  | workspace => some "ANALYZE_WORKSPACE"
  | config => some "ANALYZE_CONFIG"
  | _ => none

/-! ## names tell switches apart -/

theorem ofLongName?_longName (s : Switch) : ofLongName? s.longName = some s := by
  cases s <;> rfl

theorem ofShortName?_shortName (s : Switch) : ∀ c ∈ s.shortName?, ofShortName? c = some s := by
  cases s <;> simp [shortName?] <;> rfl

end Switch

end ComponentBrowser.CommandLine
