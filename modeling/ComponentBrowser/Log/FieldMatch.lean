import ComponentBrowser.Pattern.Program
import ComponentBrowser.Pattern.Reader
import ComponentBrowser.Text.Decimal

/-!
# ComponentBrowser.Log.FieldMatch

What a directive of a log filter asks a field of a span to hold.  A truth value
or a number asks for just that, and so for no text; everything else is a
pattern for texts.
-/

namespace ComponentBrowser.Log

/-! ## numbers -/

/-- Whether characters are digits, at least one. -/
def areDigits (cs : List Char) : Bool := !cs.isEmpty && cs.all Decimal.isDigit

/-- A text without the sign in front. -/
def unsigned (cs : List Char) : List Char :=
  if cs.head? = some '+' ∨ cs.head? = some '-' then cs.drop 1 else cs

/-- Whether a text is the exponent of a number, which may be missing. -/
def isExponent : List Char → Bool
  | [] => true
  | c :: rest => (c == 'e' || c == 'E') && areDigits (unsigned rest)

/-- Whether a text is a number without sign: digits with a point anywhere among
them, and an exponent; or a word for what is no finite number. -/
def isUnsignedNumber (cs : List Char) : Bool :=
  let whole := cs.takeWhile Decimal.isDigit
  let behind := cs.dropWhile Decimal.isDigit
  let fraction := if behind.head? = some '.' then behind.drop 1 else behind
  let rest := if behind.head? = some '.' then fraction.dropWhile Decimal.isDigit else behind
  let word := String.ofList (cs.map Char.toLower)
  (isExponent rest && (!whole.isEmpty || rest.length < fraction.length)) ||
    word == "inf" || word == "infinity" || word == "nan"

/-- Whether a text is a number. -/
def isNumber (cs : List Char) : Bool := isUnsignedNumber (unsigned cs)

/-! ## values -/

/-- What a field is asked to hold. -/
inductive FieldValue where
  /-- A truth value or a number, as it is written. -/
  | constant (text : String)
  /-- A text that a pattern fits, with the pattern as it is written. -/
  | pattern (text : String) (p : Pattern)
  deriving DecidableEq

namespace FieldValue

/-- Read what a field is asked to hold. -/
def parse (text : String) : Except Pattern.Fault FieldValue :=
  if text = "true" ∨ text = "false" ∨ isNumber text.toList then .ok (.constant text)
  else (Pattern.parse text).map (.pattern text)

/-- Whether a text is what the field is asked to hold. -/
def fits : FieldValue → String → Bool
  | constant _, _ => false
  | pattern _ p, held => p.fits held

end FieldValue

/-! ## fields -/

/-- A field that a directive asks for, and what it asks it to hold. -/
structure FieldMatch where
  name : String
  value? : Option FieldValue
  deriving DecidableEq

namespace FieldMatch

/-- Read a field, and the value behind its first equals sign up to a second one. -/
def parse (cs : List Char) : Except Pattern.Fault FieldMatch :=
  let notEquals := fun (c : Char) => c != '='
  match cs.dropWhile notEquals with
  | [] => .ok ⟨String.ofList cs, none⟩
  | _ :: value =>
    (FieldValue.parse (String.ofList (value.takeWhile notEquals))).map fun v =>
      ⟨String.ofList (cs.takeWhile notEquals), some v⟩

/-- Whether fields have one with the name that is asked for. -/
def isNamedIn (f : FieldMatch) (fields : List (String × String)) : Bool :=
  fields.any (·.1 == f.name)

/-- Whether fields hold what is asked for, if anything is. -/
def isHeldIn (f : FieldMatch) (fields : List (String × String)) : Bool :=
  match f.value? with
  | none => true
  | some v => fields.any fun (name, held) => name == f.name && v.fits held

end FieldMatch

end ComponentBrowser.Log
