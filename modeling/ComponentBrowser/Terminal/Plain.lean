import ComponentBrowser.Text.Utf8

/-!
# ComponentBrowser.Terminal.Plain

Texts without what a terminal obeys: control sequences, control strings and
control characters other than white space.  A control sequence that is not
finished is dropped as far as it goes; white space within one ends it and
stays.
-/

namespace ComponentBrowser.Terminal

/-- What a terminal is in the middle of. -/
inductive Phase where
  /-- Nothing: text is shown. -/
  | text
  /-- A character of which some bytes are missing. -/
  | character (missing : Nat)
  /-- A sequence of which only the escape is known. -/
  | escape
  | escapeIntermediate
  /-- A control sequence, which a letter ends. -/
  | controlSequence
  | deviceStart
  | deviceParameter
  | deviceIntermediate
  /-- A control string that ends with a string terminator. -/
  | string
  /-- A control string that the bell ends. -/
  | command
  deriving DecidableEq, Repr

namespace Phase

/-- Whether a control character is white space. -/
def isBreak (b : UInt8) : Bool := b == 0x09 || b == 0x0A || b == 0x0C || b == 0x0D

/-- Whether a byte lies between two others. -/
def isBetween (low high b : UInt8) : Bool := low ≤ b && b ≤ high

/-- After a byte of text, and whether it is shown. -/
def afterText (b : UInt8) : Phase × Bool :=
  if isBetween 0x20 0x7E b || isBreak b then (text, true)
  else if isBetween 0xC2 0xDF b then (character 1, true)
  else if isBetween 0xE0 0xEF b then (character 2, true)
  else if isBetween 0xF0 0xF4 b then (character 3, true)
  else (text, false)

/-- After a byte behind an escape. -/
def afterEscape (b : UInt8) : Phase :=
  if isBetween 0x20 0x2F b then escapeIntermediate
  else if b == 0x50 then deviceStart
  else if b == 0x5B then controlSequence
  else if b == 0x5D then command
  else if b == 0x58 || b == 0x5E || b == 0x5F then string
  else if isBetween 0x30 0x7E b then text
  else escape

/-- After a byte at the head of a device string: intermediate bytes may follow
parameters and not the other way round. -/
def afterDevice (p : Phase) (b : UInt8) : Phase :=
  if isBetween 0x40 0x7E b then string
  else if isBetween 0x20 0x2F b then deviceIntermediate
  else if isBetween 0x30 0x3F b then
    if p = deviceStart || (p = deviceParameter && b ≤ 0x3B) then deviceParameter else string
  else p

/-- After a byte, and whether it is shown.  Cancelling and substituting end
everything, and an escape begins anew. -/
def step (p : Phase) (b : UInt8) : Phase × Bool :=
  match p with
  | character missing => (if missing ≤ 1 then text else character (missing - 1), true)
  | _ =>
    if b == 0x18 || b == 0x1A then (text, false)
    else if b == 0x1B then (escape, false)
    else match p with
      | escape => if isBreak b then (text, true) else (afterEscape b, false)
      | escapeIntermediate =>
        if isBreak b then (text, true)
        else (if isBetween 0x30 0x7E b then text else escapeIntermediate, false)
      | controlSequence =>
        if isBreak b then (text, true)
        else (if isBetween 0x40 0x7E b then text else controlSequence, false)
      | deviceStart | deviceParameter | deviceIntermediate => (afterDevice p b, false)
      | string => (if b == 0x9C then text else string, false)
      | command => (if b == 0x07 then text else command, false)
      | _ => afterText b

end Phase

/-- The bytes that are shown. -/
def strip (p : Phase) : Bytes → Bytes
  | [] => []
  | b :: rest =>
    let (next, shown) := p.step b
    if shown then b :: strip next rest else strip next rest

/-- A text without what a terminal obeys. -/
def plain (s : String) : String := Bytes.toText (strip .text (Bytes.ofText s))

end ComponentBrowser.Terminal
