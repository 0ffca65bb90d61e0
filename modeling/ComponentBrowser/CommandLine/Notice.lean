import ComponentBrowser.CommandLine.Switch
import ComponentBrowser.Command
import ComponentBrowser.Settings.Load
import ComponentBrowser.Terminal.Plain
import ComponentBrowser.Terminal.Style

/-!
# ComponentBrowser.CommandLine.Notice

What is said in place of running a command: the help, the version, and what is
wrong with a command line.  `painted` is worded for a terminal; `text` is what
remains where there is none, so that nothing the operator typed can steer a
terminal.
-/

namespace ComponentBrowser.CommandLine

open Terminal (paint)

/-- Why a command line is read no further. -/
inductive Notice where
  /-- The help was asked for. -/
  | help
  /-- The version was asked for. -/
  | version
  /-- A switch without the value it needs. -/
  | missingValue (s : Switch)
  /-- A switch that may stand there once. -/
  | repeated (s : Switch)
  /-- A value for a switch that takes none, perhaps behind other switches. -/
  | unexpectedValue (value : String) (s : Switch) (followsOthers : Bool)
  /-- A long name that is not text, as it is shown, behind some other switches;
  and a switch with a similar name. -/
  | unknownName (name : String) (similar? : Option Switch) (before : List Switch)
  /-- A value or an argument that is not text. -/
  | notText
  deriving DecidableEq

namespace Notice

/-! ## help -/

/-- The version of the program. -/
def versionText : String := Command.program ++ " 0.1.0\n"

/-- What the program is for. -/
def about : String := "Browse extracted InnoDB component write-ups and fetch analysis prompts"

/-- A switch as usage lines show it. -/
def paintedLabel (s : Switch) : String :=
  paint .literal ("--" ++ s.longName) ++ ((s.valueName?.map fun v => " <" ++ v ++ ">").getD "")

/-- How the program is called, from what stands behind its name. -/
def usageOf (parts : List String) : String :=
  " ".intercalate (paint .heading "Usage:" :: paint .literal Command.program :: parts) ++ "\n"

/-- How the program is called, with the switches that matter. -/
def usageLine (switches : List Switch) : String :=
  let shown := if switches = [] then ["[OPTIONS]"] else switches.map paintedLabel
  usageOf (shown ++ ["[ARGS]..."])

/-- How the program is called with one of the things that it takes, behind the
switches that only ask. -/
def usageWithChoice (switches : List Switch) : String :=
  let choices := (Switch.all.filter (!·.isQuestion)).map Switch.label ++ ["ARGS"]
  usageOf ((switches.filter (·.isQuestion)).map paintedLabel ++
    ["<" ++ "|".intercalate choices ++ ">"])

/-- The names of a switch in the help. -/
def switchColumn (s : Switch) : String :=
  let short := match s.shortName? with
    | some c => "  " ++ paint .literal ("-" ++ String.ofList [c]) ++ ", "
    | none => "      "
  short ++ paintedLabel s ++ String.ofList (List.replicate (25 - s.label.length) ' ')

/-- The value of the variable that stands in for a switch. -/
def variableValue? (v : Variables) : Switch → Option Bytes
  | .workspace => v.workspace?
  | .config => v.configFile?
  | _ => none

/-- The variable that stands in for a switch, and its value.  Further lines of
the value are indented. -/
def variableNote (v : Variables) (s : Switch) : String :=
  match s.standIn? with
  | none => ""
  | some name =>
    let value := ((variableValue? v s).map Bytes.toText).getD ""
    let indented := value.toList.flatMap fun c =>
      if c = '\n' then '\n' :: List.replicate 31 ' ' else [c]
    " [env: " ++ name ++ "=" ++ String.ofList indented ++ "]"

/-- The line of the help for a switch. -/
def switchLine (v : Variables) (s : Switch) : String :=
  switchColumn s ++ s.description ++ variableNote v s ++ "\n"

/-- The help. -/
def helpText (v : Variables) : String :=
  about ++ "\n\n" ++ usageLine [] ++ "\n" ++ paint .heading "Arguments:" ++ "\n" ++
    "  [ARGS]...  Command and its arguments: list | show <index> | prompt <type>\n" ++
    "\n" ++ paint .heading "Options:" ++ "\n" ++ String.join (Switch.all.map (switchLine v))

/-! ## wording -/

/-- Where the help is found. -/
def helpHint : String :=
  "\nFor more information, try '" ++ paint .literal "--help" ++ "'.\n"

/-- A complaint with what helps against it. -/
def complaint (words help : String) : String :=
  paint .alarm "error:" ++ " " ++ words ++ help ++ helpHint

/-- A tip of its own. -/
def tip (words : String) : String := "\n  " ++ paint .right "tip:" ++ " " ++ words

/-- Whether a notice was asked for, and is no complaint. -/
def isRequested : Notice → Bool
  | help | version => true
  | _ => false

/-- What is said, for a terminal. -/
def painted (v : Variables) : Notice → String
  | help => helpText v
  | version => versionText
  | missingValue s =>
    complaint ("a value is required for '" ++ paint .literal s.label ++ "' but none was supplied")
      "\n"
  | repeated s =>
    complaint ("the argument '" ++ paint .wrong s.label ++ "' cannot be used multiple times")
      ("\n\n" ++ usageLine [])
  | unexpectedValue value s followsOthers =>
    complaint
      ("unexpected value '" ++ paint .wrong value ++ "' for '" ++ paint .literal s.label ++
        "' found; no more were expected")
      ("\n\n" ++ if followsOthers then usageWithChoice [s] else usageLine [s])
  | unknownName name similar? before =>
    let similar := match similar? with
      | some s => tip ("a similar argument exists: '" ++ paint .right ("--" ++ s.longName) ++ "'")
      | none => ""
    let used := match similar? with
      | some s => if before.contains s then before else before ++ [s]
      | none => before
    complaint ("unexpected argument '" ++ paint .wrong ("--" ++ name) ++ "' found")
      ("\n" ++ similar ++
        tip ("to pass '" ++ paint .wrong ("--" ++ name) ++ "' as a value, use '" ++
          paint .right ("-- --" ++ name) ++ "'") ++
        "\n\n" ++ usageLine used)
  | notText =>
    complaint "invalid UTF-8 was detected in one or more arguments" ("\n\n" ++ usageLine [])

/-- What is said. -/
def text (v : Variables) (n : Notice) : String := Terminal.plain (n.painted v)

end Notice

end ComponentBrowser.CommandLine
