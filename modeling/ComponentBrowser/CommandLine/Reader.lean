import ComponentBrowser.CommandLine.Notice

/-!
# ComponentBrowser.CommandLine.Reader

Reading a command line: switches first, then a command and its arguments.
What looks like a switch but is none belongs to the command, and everything
behind the first such word does too.

A switch that takes a value is *waiting* for it until the next word; its value
is looked at once the next switch, the command or the end of the line comes.
-/

namespace ComponentBrowser.CommandLine

/-- What a command line asks for. -/
structure Request where
  overrides : Overrides
  /-- Whether the answer is wanted as JSON. -/
  json : Bool
  /-- The command and its arguments. -/
  arguments : List String
  deriving DecidableEq

/-- A switch whose value is not settled. -/
structure Waiting where
  switch : Switch
  value? : Option Bytes

/-- What is known after some words of a command line. -/
structure Reader where
  overrides : Overrides
  json : Bool
  /-- The switches that are settled, in their order. -/
  settled : List Switch
  waiting? : Option Waiting

namespace Reader

/-- Before the first word. -/
def start : Reader := ⟨{}, false, [], none⟩

/-! ## switches -/

/-- A path given as a value, which may not be empty. -/
def pathValue (s : Switch) (value : Bytes) : Except Notice Path :=
  if value = [] then .error (.missingValue s) else .ok ⟨value⟩

/-- A text given as a value. -/
def textValue (value : Bytes) : Except Notice String :=
  match value.toText? with
  | some s => .ok s
  | none => .error .notText

/-- The overrides with what a switch says. -/
def apply (o : Overrides) (s : Switch) (value : Bytes) : Except Notice Overrides :=
  match s with
  | .workspace => (pathValue s value).map fun p => { o with workspace? := some p }
  | .config => (pathValue s value).map fun p => { o with configFile? := some p }
  | .logLevel => (textValue value).map fun t => { o with logLevel? := some t }
  | .verbose => .ok { o with verbose := true }
  | .noColor => .ok { o with noColor := true }
  | .json => .ok o
  | .help => .error .help
  | .version => .error .version

/-- Take a switch with its value. -/
def take (r : Reader) (s : Switch) (value : Bytes) : Except Notice Reader :=
  if r.settled.contains s then .error (.repeated s)
  else (apply r.overrides s value).map fun overrides =>
    { r with overrides, json := r.json || s == .json, settled := r.settled ++ [s] }

/-- Settle the switch that waits for its value. -/
def settle (r : Reader) : Except Notice Reader :=
  match r.waiting? with
  | none => .ok r
  | some w =>
    match w.value? with
    | none => .error (.missingValue w.switch)
    | some value => { r with waiting? := none }.take w.switch value

/-- A switch, perhaps with a value in the same word. -/
def switch (r : Reader) (s : Switch) (value? : Option Bytes) : Except Notice Reader := do
  if s.takesValue then
    let r ← r.settle
    match value? with
    | some value => r.take s value
    | none => pure { r with waiting? := some ⟨s, none⟩ }
  else match value? with
    | some value => .error (.unexpectedValue value.toText s (r.settled != []))
    | none => (← r.settle).take s []

/-- Switches by their short names in one word; what follows one that takes a
value is its value. -/
def cluster (r : Reader) : List (Char × Switch) → Except Notice Reader
  | [] => .ok r
  | (_, s) :: rest =>
    if s.takesValue then
      let value := rest.map (·.1)
      r.switch s (if value = [] then none else some (Utf8.encode value))
    else do (← r.switch s none).cluster rest

/-! ## words -/

/-- What a word is. -/
inductive Word where
  /-- The mark that ends the switches. -/
  | endOfSwitches
  /-- A switch by its long name, perhaps with a value behind an equals sign. -/
  | long (s : Switch) (value? : Option Bytes)
  /-- A long name that is not text, as it is shown. -/
  | badName (name : String)
  /-- Switches by their short names. -/
  | shorts (switches : List (Char × Switch))
  /-- Anything else. -/
  | other

/-- A word behind two dashes. -/
def ofLong (word : Bytes) : Word :=
  let isName := fun (b : UInt8) => b != 0x3D
  let name := word.takeWhile isName
  let value? := if name.length < word.length then some (word.drop (name.length + 1)) else none
  match Bytes.toText? name with
  | none => .badName (Bytes.toText name)
  | some name => ((Switch.ofLongName? name).map (Word.long · value?)).getD .other

/-- What a word of the command line is. -/
def classify (word : Bytes) : Word :=
  match word with
  | 0x2D :: 0x2D :: [] => .endOfSwitches
  | 0x2D :: 0x2D :: rest => ofLong rest
  | 0x2D :: b :: rest =>
    match (Utf8.decode? (b :: rest)).bind
        (·.mapM fun c => (Switch.ofShortName? c).map fun s => (c, s)) with
    | some switches => .shorts switches
    | none => .other
  | _ => .other

/-- The switches in use, with the one that waits for its value once it has one.
A second one of its kind leaves none of them. -/
def inUse (r : Reader) : List Switch :=
  match r.waiting? with
  | some ⟨s, some _⟩ => if r.settled.contains s then r.settled.erase s else r.settled ++ [s]
  | _ => r.settled

/-- Read words up to the first argument, which begins the rest. -/
def readSwitches (r : Reader) : List Bytes → Except Notice (Reader × List Bytes)
  | [] => .ok (r, [])
  | word :: rest =>
    match classify word with
    | .endOfSwitches => .ok (r, rest)
    | .long s value? => do (← r.switch s value?).readSwitches rest
    | .badName name => .error (.unknownName name (Switch.similar? name) r.inUse)
    | .shorts switches => do (← r.cluster switches).readSwitches rest
    | .other =>
      match r.waiting? with
      | some ⟨s, none⟩ => { r with waiting? := some ⟨s, some word⟩ }.readSwitches rest
      | _ => .ok (r, word :: rest)

/-- Fill in a switch that was not given from its variable. -/
def withVariable (v : Variables) (r : Reader) (s : Switch) : Except Notice Reader :=
  match Notice.variableValue? v s with
  | some value => if r.settled.contains s then .ok r else r.take s value
  | none => .ok r

end Reader

/-- Read a command line. -/
def read (v : Variables) (words : List Bytes) : Except Notice Request := do
  let (r, rest) ← Reader.start.readSwitches words
  let r ← r.settle
  let arguments ← rest.mapM Reader.textValue
  let r ← Switch.all.foldlM (Reader.withVariable v) r
  pure ⟨r.overrides, r.json, arguments⟩

end ComponentBrowser.CommandLine
