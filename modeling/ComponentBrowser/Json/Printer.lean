import ComponentBrowser.Json.Value
import ComponentBrowser.Text.Decimal

/-!
# ComponentBrowser.Json.Printer

JSON documents as text: `compact` on one line, `pretty` with one item on each
line, indented by two blanks for each level.
-/

namespace ComponentBrowser.Json

/-! ## strings and numbers -/

/-- A character inside a JSON string: quotes, backslashes and controls are
escaped. -/
def escape (c : Char) : List Char :=
  if c = '"' then ['\\', '"']
  else if c = '\\' then ['\\', '\\']
  else if c = '\x08' then ['\\', 'b']
  else if c = '\t' then ['\\', 't']
  else if c = '\n' then ['\\', 'n']
  else if c = '\x0c' then ['\\', 'f']
  else if c = '\r' then ['\\', 'r']
  else if c.toNat < 0x20 then
    ['\\', 'u', '0', '0', Nat.digitChar (c.toNat / 16), Nat.digitChar (c.toNat % 16)]
  else [c]

/-- A JSON string. -/
def stringText (s : String) : List Char := '"' :: s.toList.flatMap escape ++ ['"']

/-- A JSON number. -/
def numberText : Number → List Char
  | .integer n => (Decimal.renderInt n).toList
  | .decimal negative digits exponent =>
    (if negative then ['-'] else []) ++ Decimal.digits digits ++ 'e' ::
      (Decimal.renderInt exponent).toList

/-! ## layouts -/

mutual

/-- A value on one line. -/
def compactText : Json → List Char
  | .null => ['n', 'u', 'l', 'l']
  | .bool true => ['t', 'r', 'u', 'e']
  | .bool false => ['f', 'a', 'l', 's', 'e']
  | .number n => numberText n
  | .string s => stringText s
  | .array [] => ['[', ']']
  | .array (item :: items) => '[' :: compactText item ++ compactItems items ++ [']']
  | .object [] => ['\x7b', '\x7d']
  | .object (member :: members) =>
    '\x7b' :: compactMember member ++ compactMembers members ++ ['\x7d']

/-- The items of an array after the first. -/
def compactItems : List Json → List Char
  | [] => []
  | item :: items => ',' :: compactText item ++ compactItems items

/-- One member of an object. -/
def compactMember : String × Json → List Char
  | (name, value) => stringText name ++ ':' :: compactText value

/-- The members of an object after the first. -/
def compactMembers : List (String × Json) → List Char
  | [] => []
  | member :: members => ',' :: compactMember member ++ compactMembers members

end

/-- A line break and the indentation of a level. -/
def newline (depth : Nat) : List Char := '\n' :: List.replicate (2 * depth) ' '

mutual

/-- A value on lines of its own, at a level of indentation. -/
def prettyText (depth : Nat) : Json → List Char
  | .null => ['n', 'u', 'l', 'l']
  | .bool true => ['t', 'r', 'u', 'e']
  | .bool false => ['f', 'a', 'l', 's', 'e']
  | .number n => numberText n
  | .string s => stringText s
  | .array [] => ['[', ']']
  | .array (item :: items) =>
    '[' :: newline (depth + 1) ++ prettyText (depth + 1) item ++ prettyItems (depth + 1) items ++
      newline depth ++ [']']
  | .object [] => ['\x7b', '\x7d']
  | .object (member :: members) =>
    '\x7b' :: newline (depth + 1) ++ prettyMember (depth + 1) member ++
      prettyMembers (depth + 1) members ++ newline depth ++ ['\x7d']

/-- The items of an array after the first. -/
def prettyItems (depth : Nat) : List Json → List Char
  | [] => []
  | item :: items => ',' :: newline depth ++ prettyText depth item ++ prettyItems depth items

/-- One member of an object. -/
def prettyMember (depth : Nat) : String × Json → List Char
  | (name, value) => stringText name ++ ':' :: ' ' :: prettyText depth value

/-- The members of an object after the first. -/
def prettyMembers (depth : Nat) : List (String × Json) → List Char
  | [] => []
  | member :: members =>
    ',' :: newline depth ++ prettyMember depth member ++ prettyMembers depth members

end

/-- A JSON document on one line. -/
def compact (v : Json) : String := String.ofList (compactText v)

/-- A JSON document on several lines. -/
def pretty (v : Json) : String := String.ofList (prettyText 0 v)

end ComponentBrowser.Json
