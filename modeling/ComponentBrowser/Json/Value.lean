/-!
# ComponentBrowser.Json.Value

JSON values.  Numbers keep the distinction that readers of settings make:
integers that fit 64 bits, and decimals.  The members of an object keep the
order of writing.
-/

namespace ComponentBrowser

namespace Json

/-- A JSON number. -/
inductive Number where
  /-- An integer written without fraction and exponent. -/
  | integer (n : Int)
  /-- The decimal `digits * 10 ^ exponent`, with its sign. -/
  | decimal (negative : Bool) (digits : Nat) (exponent : Int)
  deriving DecidableEq, Repr

end Json

/-- A JSON value. -/
inductive Json where
  | null
  | bool (b : Bool)
  | number (n : Json.Number)
  | string (s : String)
  | array (items : List Json)
  | object (members : List (String × Json))

namespace Json

/-- A natural number as a JSON value. -/
def ofNat (n : Nat) : Json := .number (.integer n)

/-- An optional text as a JSON value. -/
def ofText? (s : Option String) : Json := (s.map Json.string).getD .null

/-- The value of the last member with a given name. -/
def member? (name : String) : Json → Option Json
  | .object members => members.reverse.lookup name
  | _ => none

end Json

end ComponentBrowser
