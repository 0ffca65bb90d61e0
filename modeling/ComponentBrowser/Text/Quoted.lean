import ComponentBrowser.Text.Utf8
import ComponentBrowser.Text.Visible

/-!
# ComponentBrowser.Text.Quoted

Quoted texts, as messages and log fields show them: between double quotes,
with the quote, the backslash and everything that does not show on its own
written as an escape.  A quoted text stays on one line and shows where it
ends.
-/

namespace ComponentBrowser.Text

/-- The escape that names a code point: `\u` and its hexadecimal digits in
braces. -/
def codePointEscape (c : Char) : List Char :=
  ['\\', 'u', '\x7b'] ++ Nat.toDigits 16 c.toNat ++ ['\x7d']

/-- A character inside quotes. -/
def escape (c : Char) : List Char :=
  if c = '\x00' then ['\\', '0']
  else if c = '\t' then ['\\', 't']
  else if c = '\r' then ['\\', 'r']
  else if c = '\n' then ['\\', 'n']
  else if c = '"' then ['\\', '"']
  else if c = '\\' then ['\\', '\\']
  else if isVisible c then [c]
  else codePointEscape c

/-- A byte that belongs to no character: `\x` and two hexadecimal digits. -/
def escapeByte (b : UInt8) : List Char :=
  let digit := fun (n : Nat) => (Nat.digitChar n).toUpper
  ['\\', 'x', digit (b.toNat / 16), digit (b.toNat % 16)]

/-- A decoded segment inside quotes. -/
def escapeSegment : Utf8.Segment → List Char
  | .scalar c => escape c
  | .broken bytes => bytes.flatMap escapeByte

/-- A text between quotes. -/
def quoted (s : String) : String :=
  String.ofList (['"'] ++ s.toList.flatMap escape ++ ['"'])

/-- Bytes between quotes: their text where they are text, and the other bytes
by their value. -/
def quotedBytes (bytes : Bytes) : String :=
  String.ofList (['"'] ++ (Utf8.segments bytes).flatMap escapeSegment ++ ['"'])

end ComponentBrowser.Text
