import ComponentBrowser.Pattern.NamedSet
import ComponentBrowser.Pattern.Options
import ComponentBrowser.Text.Hexadecimal

/-!
# ComponentBrowser.Pattern.Atom

What a backslash and the characters behind it stand for in a pattern.  There are
no properties of Unicode to refer to here, so what needs them is refused; so is
a number in braces, for a pattern stands where a closing brace would end it.
-/

namespace ComponentBrowser.Pattern

/-- A single thing in the text of a pattern. -/
inductive Atom where
  /-- A character; one written by two hexadecimal digits is a byte where
  characters are not those of Unicode. -/
  | char (c : Char) (isByte : Bool)
  /-- A set of ASCII characters with a name, or the characters outside it. -/
  | named (set : CodePoints) (isNegated : Bool)
  | look (l : Look)

namespace Atom

/-- The characters with a meaning of their own somewhere in a pattern. -/
def metaChars : List Char :=
  ['\\', '.', '+', '*', '?', '(', ')', '|', '[', ']', '\x7b', '\x7d', '^', '$', '#', '&', '-', '~']

/-- Whether a backslash before a character only says that it stands for itself.
Letters and digits may have a meaning with one, and so have angle brackets. -/
def standsForItself (c : Char) : Bool :=
  metaChars.contains c ||
    (c.toNat < 0x80 && !c.isAlphanum && c != '<' && c != '>')

/-- The character with a number, unless the number is that of a surrogate or
too large. -/
def ofNumber? (n : Nat) : Option Char :=
  if n < 0xD800 ∨ (0xDFFF < n ∧ n < 0x110000) then some (Char.ofNat n) else none

/-- Read hexadecimal digits, as many as are left to read, behind those that
stand for `n`. -/
def hexadecimal? (o : Options) (n : Nat) : Nat → List Char → Option (Nat × List Char)
  | 0, cs => some (n, cs)
  | count + 1, cs =>
    match o.skip cs with
    | [] => none
    | c :: rest =>
      (Hexadecimal.value? c).bind fun digit => hexadecimal? o (16 * n + digit) count rest

/-- A character by its number in hexadecimal digits. -/
def byNumber? (o : Options) (count : Nat) (rest : List Char) : Option (Atom × List Char) := do
  let (n, rest) ← hexadecimal? o 0 count rest
  pure (.char (← ofNumber? n) (count == 2), rest)

/-- A set of characters by the name that it has in brackets. -/
def byName? (name : String) (isNegated : Bool) : Option Atom :=
  (CodePoints.ofName? name).map (named · isNegated)

/-- What a letter stands for behind a backslash. -/
def ofLetter? (c : Char) : Option Atom :=
  match c with
  | 'a' => some (.char '\x07' false)
  | 'f' => some (.char '\x0c' false)
  | 't' => some (.char '\t' false)
  | 'n' => some (.char '\n' false)
  | 'r' => some (.char '\r' false)
  | 'v' => some (.char '\x0b' false)
  | 'A' => some (.look .textStart)
  | 'z' => some (.look .textEnd)
  | 'b' => some (.look .wordEdge)
  | 'B' => some (.look .noWordEdge)
  | '<' => some (.look .wordStart)
  | '>' => some (.look .wordEnd)
  | 'd' => byName? "digit" false
  | 's' => byName? "space" false
  | 'w' => byName? "word" false
  | 'D' => byName? "digit" true
  | 'S' => byName? "space" true
  | 'W' => byName? "word" true
  | _ => none

/-- Read what stands behind a backslash. -/
def read? (o : Options) : List Char → Option (Atom × List Char)
  | [] => none
  | c :: rest =>
    match c with
    | 'x' => byNumber? o 2 rest
    | 'u' => byNumber? o 4 rest
    | 'U' => byNumber? o 8 rest
    | _ =>
      if standsForItself c then some (.char c false, rest)
      else (ofLetter? c).map fun atom => (atom, rest)

end Atom

end ComponentBrowser.Pattern
