import ComponentBrowser.Json.Value
import ComponentBrowser.Text.Decimal
import ComponentBrowser.Text.Hexadecimal

/-!
# ComponentBrowser.Json.Reader

Reading JSON documents.  Integers are kept as integers while they fit 64 bits,
signed or unsigned; longer ones, a negative zero and everything with a
fraction or an exponent is a decimal.
-/

namespace ComponentBrowser.Json

/-! ## pieces -/

/-- Drop the white space that JSON allows between tokens. -/
def skipBlanks : List Char → List Char :=
  List.dropWhile fun c => c == ' ' || c == '\t' || c == '\n' || c == '\r'

/-- The value of four hexadecimal digits and what follows them. -/
def hex4? : List Char → Option (Nat × List Char)
  | a :: b :: c :: d :: rest => do
    let a ← Hexadecimal.value? a
    let b ← Hexadecimal.value? b
    let c ← Hexadecimal.value? c
    let d ← Hexadecimal.value? d
    pure (((a * 16 + b) * 16 + c) * 16 + d, rest)
  | _ => none

/-- The character that a one-letter escape stands for. -/
def unescape? : Char → Option Char
  | '"' => some '"'
  | '\\' => some '\\'
  | '/' => some '/'
  | 'b' => some '\x08'
  | 'f' => some '\x0c'
  | 'n' => some '\n'
  | 'r' => some '\r'
  | 't' => some '\t'
  | _ => none

/-- The character named by the digits after `\u`, two such escapes for one
beyond U+FFFF. -/
def codePoint? (cs : List Char) : Option (Char × List Char) :=
  match hex4? cs with
  | none => none
  | some (high, rest) =>
    if high < 0xD800 ∨ 0xE000 ≤ high then some (Char.ofNat high, rest)
    else if 0xDC00 ≤ high then none
    else match rest with
      | '\\' :: 'u' :: more =>
        match hex4? more with
        | some (low, rest) =>
          if 0xDC00 ≤ low ∧ low < 0xE000 then
            some (Char.ofNat (0x10000 + (high - 0xD800) * 0x400 + (low - 0xDC00)), rest)
          else none
        | none => none
      | _ => none

/-- Read a string from behind its opening quote; `done` holds the characters
read so far, the last first. -/
def readString (fuel : Nat) (done : List Char) (cs : List Char) :
    Option (String × List Char) :=
  match fuel, cs with
  | 0, _ => none
  | _, [] => none
  | fuel + 1, c :: rest =>
    if c = '"' then some (String.ofList done.reverse, rest)
    else if c = '\\' then
      match rest with
      | 'u' :: more =>
        match codePoint? more with
        | some (c, rest) => readString fuel (c :: done) rest
        | none => none
      | letter :: more =>
        match unescape? letter with
        | some c => readString fuel (c :: done) more
        | none => none
      | [] => none
    else if c.toNat < 0x20 then none
    else readString fuel (c :: done) rest

/-- The digits in front, and what follows them. -/
def spanDigits (cs : List Char) : List Char × List Char :=
  (cs.takeWhile Decimal.isDigit, cs.dropWhile Decimal.isDigit)

/-- The number that sign, integer digits, fraction digits and exponent stand
for. -/
def Number.ofParts (negative : Bool) (whole : List Char) (fraction? : Option (List Char))
    (exponent? : Option Int) : Number :=
  let n := Decimal.value whole
  match fraction?, exponent? with
  | none, none =>
    if negative then
      if 0 < n ∧ n ≤ UInt64.size / 2 then .integer (-(n : Int)) else .decimal true n 0
    else if n < UInt64.size then .integer n else .decimal false n 0
  | _, _ =>
    let fraction := fraction?.getD []
    .decimal negative (Decimal.value (whole ++ fraction))
      (exponent?.getD 0 - (fraction.length : Int))

/-- Read the digits of a fraction, if one follows. -/
def readFraction : List Char → Option (Option (List Char) × List Char)
  | '.' :: rest =>
    let (digits, rest) := spanDigits rest
    if digits = [] then none else some (some digits, rest)
  | cs => some (none, cs)

/-- Read an exponent, if one follows. -/
def readExponent : List Char → Option (Option Int × List Char)
  | [] => some (none, [])
  | e :: rest =>
    if e = 'e' ∨ e = 'E' then
      let (minus, rest) := match rest with
        | '-' :: rest => (true, rest)
        | '+' :: rest => (false, rest)
        | _ => (false, rest)
      let (digits, rest) := spanDigits rest
      let size : Int := Decimal.value digits
      if digits = [] then none else some (some (if minus then -size else size), rest)
    else some (none, e :: rest)

/-- Read a number. -/
def readNumber (cs : List Char) : Option (Number × List Char) :=
  let (negative, cs) := if cs.head? = some '-' then (true, cs.drop 1) else (false, cs)
  let (whole, cs) := spanDigits cs
  if whole = [] ∨ (whole.head? = some '0' ∧ 1 < whole.length) then none
  else do
    let (fraction?, cs) ← readFraction cs
    let (exponent?, cs) ← readExponent cs
    pure (.ofParts negative whole fraction? exponent?, cs)

/-! ## documents -/

/-- Read the name of a member and the colon behind it. -/
def readName (cs : List Char) : Option (String × List Char) :=
  match skipBlanks cs with
  | '"' :: rest =>
    match readString (rest.length + 1) [] rest with
    | none => none
    | some (name, rest) =>
      match skipBlanks rest with
      | ':' :: rest => some (name, rest)
      | _ => none
  | _ => none

mutual

/-- Read a value. -/
def readValue (fuel : Nat) (cs : List Char) : Option (Json × List Char) :=
  match fuel with
  | 0 => none
  | fuel + 1 =>
    match skipBlanks cs with
    | 'n' :: 'u' :: 'l' :: 'l' :: rest => some (.null, rest)
    | 't' :: 'r' :: 'u' :: 'e' :: rest => some (.bool true, rest)
    | 'f' :: 'a' :: 'l' :: 's' :: 'e' :: rest => some (.bool false, rest)
    | '"' :: rest => (readString (rest.length + 1) [] rest).map fun (s, rest) => (.string s, rest)
    | '[' :: rest =>
      match skipBlanks rest with
      | ']' :: rest => some (.array [], rest)
      | rest => (readItems fuel rest).map fun (items, rest) => (.array items, rest)
    | '\x7b' :: rest =>
      match skipBlanks rest with
      | '\x7d' :: rest => some (.object [], rest)
      | rest => (readMembers fuel rest).map fun (members, rest) => (.object members, rest)
    | rest => (readNumber rest).map fun (n, rest) => (.number n, rest)

/-- Read the items of an array up to its end. -/
def readItems (fuel : Nat) (cs : List Char) : Option (List Json × List Char) :=
  match fuel with
  | 0 => none
  | fuel + 1 =>
    match readValue fuel cs with
    | none => none
    | some (item, rest) =>
      match skipBlanks rest with
      | ',' :: rest => (readItems fuel rest).map fun (items, rest) => (item :: items, rest)
      | ']' :: rest => some ([item], rest)
      | _ => none

/-- Read the members of an object up to its end. -/
def readMembers (fuel : Nat) (cs : List Char) : Option (List (String × Json) × List Char) :=
  match fuel with
  | 0 => none
  | fuel + 1 =>
    match readName cs with
    | none => none
    | some (name, rest) =>
      match readValue fuel rest with
      | none => none
      | some (value, rest) =>
        match skipBlanks rest with
        | ',' :: rest =>
          (readMembers fuel rest).map fun (members, rest) => ((name, value) :: members, rest)
        | '\x7d' :: rest => some ([(name, value)], rest)
        | _ => none

end

/-- Read a document: one value, and nothing but white space around it. -/
def parse? (s : String) : Option Json :=
  let cs := s.toList
  match readValue (cs.length + 1) cs with
  | some (value, rest) => if skipBlanks rest = [] then some value else none
  | none => none

end ComponentBrowser.Json
