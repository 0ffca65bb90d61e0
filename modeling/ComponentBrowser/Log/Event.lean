import ComponentBrowser.Text.Quoted

/-!
# ComponentBrowser.Log.Event

What a run reports while it works: events with a level, the part of the
program that reports them, a message and named values; and the span that
events of a command stand in.  Each event is written as one line of the log.
-/

namespace ComponentBrowser.Log

/-- How serious an event is, the most serious first. -/
inductive Level where
  | error
  | warn
  | info
  | debug
  | trace
  deriving DecidableEq, Repr

namespace Level

/-- The place of a level in the order from serious to detailed. -/
def rank : Level → Nat
  | error => 1
  | warn => 2
  | info => 3
  | debug => 4
  | trace => 5

/-- The name of a level in the log. -/
def name : Level → String
  | error => "ERROR"
  | warn => "WARN"
  | info => "INFO"
  | debug => "DEBUG"
  | trace => "TRACE"

end Level

/-- One event. -/
structure Event where
  level : Level
  /-- The part of the program that reports. -/
  target : String
  message : String
  /-- Named values, each as the log shows it. -/
  fields : List (String × String) := []
  deriving DecidableEq

/-- A stretch of a run that events can stand in. -/
structure Span where
  level : Level
  target : String
  name : String
  /-- Named texts that tell one such stretch from another. -/
  fields : List (String × String)
  deriving DecidableEq

/-! ## lines of the log -/

/-- A character of a message: those that a terminal could obey are written as
escapes. -/
def messageChar (c : Char) : List Char :=
  if c = '\x1b' then ['\\', 'x', '1', 'b']
  else if c = '\x07' then ['\\', 'x', '0', '7']
  else if c = '\x08' then ['\\', 'x', '0', '8']
  else if c = '\x0c' then ['\\', 'x', '0', 'c']
  else if c = '\x7f' then ['\\', 'x', '7', 'f']
  else if 0x80 ≤ c.toNat ∧ c.toNat ≤ 0x9F then Text.codePointEscape c
  else [c]

/-- A message as the log shows it. -/
def messageText (s : String) : String := String.ofList (s.toList.flatMap messageChar)

/-- The span as it stands before an event. -/
def Span.header (s : Span) : String :=
  let fields := s.fields.map fun (name, value) => name ++ "=" ++ Text.quoted value
  s.name ++ "\x7b" ++ " ".intercalate fields ++ "\x7d: "

/-- An event as the log shows it, in the span it stands in. -/
def Event.line (e : Event) (span? : Option Span) : String :=
  let fields := e.fields.map fun (name, value) => " " ++ name ++ "=" ++ value
  e.level.name ++ " " ++ (span?.map Span.header).getD "" ++ e.target ++ ": " ++
    messageText e.message ++ String.join fields

end ComponentBrowser.Log
