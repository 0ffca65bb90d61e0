import ComponentBrowser.Json.Double
import ComponentBrowser.Settings.Basic
import ComponentBrowser.Text.Quoted

/-!
# ComponentBrowser.Settings.Json

Settings as JSON: an object with six members, or an array of their values in
the order of declaration.  Optional settings may be `null` or, in an object,
missing; members of other names are passed over.

* `ofJson_toJson` — what is written reads back, if the paths are text.
-/

namespace ComponentBrowser.Settings

/-! ## writing -/

/-- Settings as a JSON object. -/
def toJson (s : Settings) : Json :=
  .object
    [("workspace", .string s.workspace.toText),
     ("config_file", .ofText? (s.configFile?.map Path.toText)),
     ("log_level", .ofText? s.logLevel?),
     ("verbose", .bool s.verbose),
     ("no_color", .bool s.noColor),
     ("preview_chars", .ofNat s.previewChars)]

/-! ## reading -/

/-- Why a JSON value does not give settings. -/
inductive JsonFault where
  /-- A value of another type than expected. -/
  | wrongType (found : Json) (expected : String)
  /-- An integer below zero for a number of characters. -/
  | negative (found : Int) (expected : String)
  | missing (field : String)
  /-- An array that ends before its sixth item. -/
  | tooShort (length : Nat)
  /-- An array with more than six items. -/
  | tooLong (length : Nat)

/-- A value as messages call it. -/
def describe : Json → String
  | .null => "null"
  | .bool b => "boolean \x60" ++ (if b then "true" else "false") ++ "\x60"
  | .number (.integer n) => "integer \x60" ++ Decimal.renderInt n ++ "\x60"
  | .number (.decimal negative digits exponent) =>
    "floating point \x60" ++ Json.doubleText negative digits exponent ++ "\x60"
  | .string s => "string " ++ Text.quoted s
  | .array _ => "sequence"
  | .object _ => "map"

/-- What messages call settings. -/
def kind : String := "struct AppConfig"

/-- The description of a fault. -/
def JsonFault.message : JsonFault → String
  | .wrongType found expected =>
    "invalid type: " ++ describe found ++ ", expected " ++ expected
  | .negative found expected =>
    "invalid value: integer \x60" ++ Decimal.renderInt found ++ "\x60, expected " ++ expected
  | .missing field => "missing field \x60" ++ field ++ "\x60"
  | .tooShort length =>
    "invalid length " ++ Decimal.render length ++ ", expected " ++ kind ++ " with 6 elements"
  | .tooLong length =>
    "invalid length " ++ Decimal.render length ++ ", expected fewer elements in array"

/-- A path, which JSON gives as text. -/
def pathOf : Json → Except JsonFault Path
  | .string s => .ok (Path.ofText s)
  | v => .error (.wrongType v "path string")

def textOf : Json → Except JsonFault String
  | .string s => .ok s
  | v => .error (.wrongType v "a string")

def boolOf : Json → Except JsonFault Bool
  | .bool b => .ok b
  | v => .error (.wrongType v "a boolean")

/-- A number of characters. -/
def countOf : Json → Except JsonFault Nat
  | .number (.integer n) =>
    if 0 ≤ n then .ok n.toNat else .error (.negative n "usize")
  | v => .error (.wrongType v "usize")

/-- A value that may be `null`. -/
def optional {α : Type} (read : Json → Except JsonFault α) :
    Json → Except JsonFault (Option α)
  | .null => .ok none
  | v => (read v).map some

/-- The value of a member, if it is there. -/
def present {α : Type} (read : Json → Except JsonFault α) (v : Json) (name : String) :
    Except JsonFault (Option α) :=
  match v.member? name with
  | none => .ok none
  | some value => (read value).map some

/-- A member that has to be there. -/
def required {α : Type} (name : String) : Option α → Except JsonFault α
  | some x => .ok x
  | none => .error (.missing name)

/-- Settings from an object.  Of several bad members the first by name is
reported, and a bad one before a missing one. -/
def ofObject (v : Json) : Except JsonFault Settings := do
  let configFile? ← present (optional pathOf) v "config_file"
  let logLevel? ← present (optional textOf) v "log_level"
  let noColor? ← present boolOf v "no_color"
  let previewChars? ← present countOf v "preview_chars"
  let verbose? ← present boolOf v "verbose"
  let workspace? ← present pathOf v "workspace"
  let workspace ← required "workspace" workspace?
  let verbose ← required "verbose" verbose?
  let noColor ← required "no_color" noColor?
  let previewChars ← required "preview_chars" previewChars?
  pure ⟨workspace, configFile?.join, logLevel?.join, verbose, noColor, previewChars⟩

/-- The item of an array at a place that has to be there. -/
def item {α : Type} (read : Json → Except JsonFault α) (items : List Json) (place : Nat) :
    Except JsonFault α :=
  match items[place]? with
  | some v => read v
  | none => .error (.tooShort place)

/-- Settings from the items of an array. -/
def ofItems (items : List Json) : Except JsonFault Settings := do
  let workspace ← item pathOf items 0
  let configFile? ← item (optional pathOf) items 1
  let logLevel? ← item (optional textOf) items 2
  let verbose ← item boolOf items 3
  let noColor ← item boolOf items 4
  let previewChars ← item countOf items 5
  if 6 < items.length then .error (.tooLong items.length)
  else pure ⟨workspace, configFile?, logLevel?, verbose, noColor, previewChars⟩

/-- Settings from a JSON value. -/
def ofJson : Json → Except JsonFault Settings
  | .object members => ofObject (.object members)
  | .array items => ofItems items
  | v => .error (.wrongType v kind)

/-! ## what is written reads back -/

theorem ofJson_toJson (s : Settings) (hworkspace : Path.ofText s.workspace.toText = s.workspace)
    (hfile : ∀ file ∈ s.configFile?, Path.ofText file.toText = file) :
    ofJson s.toJson = .ok s := by
  obtain ⟨workspace, configFile?, logLevel?, verbose, noColor, previewChars⟩ := s
  cases configFile? <;> cases logLevel? <;>
    simp_all [ofJson, toJson, ofObject, present, optional, required, Json.member?, Json.ofText?,
      Json.ofNat, pathOf, textOf, boolOf, countOf, List.lookup_cons, Except.map, bind, Except.bind,
      pure, Except.pure]

end ComponentBrowser.Settings
