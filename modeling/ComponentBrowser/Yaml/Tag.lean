import ComponentBrowser.Text.Hexadecimal
import ComponentBrowser.Yaml.Source
import ComponentBrowser.Yaml.Token

/-!
# ComponentBrowser.Yaml.Tag

Cutting anchors, tags and directives out of the text.  A tag is either given
whole between angle brackets or as a handle and a suffix; bytes of a suffix may
be written as percent escapes.
-/

namespace ComponentBrowser.Yaml

/-! ## suffixes -/

/-- A character of a tag's suffix; `wide` admits the flow indicators that
complete tags and directives may hold. -/
def isSuffixChar (wide : Bool) (c : Char) : Bool :=
  isNameChar c || [';', '/', '?', ':', '@', '&', '=', '+', '$', '.', '!', '~', '*', '\'', '(',
    ')'].contains c || (wide && (c == ',' || c == '[' || c == ']'))

/-- How many bytes of the same character follow one that a percent escape gives
first. -/
def following? (b : Nat) : Option Nat :=
  if b < 0x80 then some 0
  else if b < 0xC0 then none
  else if b < 0xE0 then some 1
  else if b < 0xF0 then some 2
  else if b < 0xF8 then some 3
  else none

/-- Read the characters of a suffix.  `due` bytes of a character are still to
come as escapes; `bytes` holds the bytes so far, the last first. -/
def suffixFrom (wide : Bool) (due : Nat) (bytes : Bytes) (p : Position) :
    List Char → Except Fault (Bytes × Cursor)
  | '%' :: high :: low :: rest =>
    match Hexadecimal.value? high, Hexadecimal.value? low with
    | some high, some low =>
      let b := 16 * high + low
      let p := p.next.next.next
      if due = 0 then
        match following? b with
        | some n => suffixFrom wide n (b.toUInt8 :: bytes) p rest
        | none => .error .badTag
      else if 0x80 ≤ b ∧ b < 0xC0 then suffixFrom wide (due - 1) (b.toUInt8 :: bytes) p rest
      else .error .badTag
    | _, _ => .error .badTag
  | c :: rest =>
    if due ≠ 0 ∨ c = '%' then .error .badTag
    else if isSuffixChar wide c then
      suffixFrom wide 0 ((String.utf8EncodeChar c).reverse ++ bytes) p.next rest
    else .ok (bytes.reverse, ⟨c :: rest, p⟩)
  | [] => if due ≠ 0 then .error .badTag else .ok (bytes.reverse, ⟨[], p⟩)

/-- Read the suffix that begins here. -/
def scanSuffix (wide : Bool) (c : Cursor) : Except Fault (Bytes × Cursor) :=
  suffixFrom wide 0 [] c.position c.rest

/-! ## tags -/

/-- Read a handle: an exclamation mark, a name, and a second mark if one
follows. -/
def scanHandle (c : Cursor) : Except Fault (String × Cursor) :=
  if c.rest.head? = some '!' then
    let (name, c) := (c.skip 1).span isNameChar
    let handle := '!' :: name
    if c.rest.head? = some '!' then .ok (String.ofList (handle ++ ['!']), c.skip 1)
    else .ok (String.ofList handle, c)
  else .error .badTag

/-- Whether a handle is closed by a second exclamation mark. -/
def isClosedHandle (handle : String) : Bool :=
  1 < handle.length && handle.toList.getLast? == some '!'

/-- Read a tag between angle brackets. -/
def scanCompleteTag (c : Cursor) : Except Fault (Token × Cursor) := do
  let (suffix, c) ← scanSuffix true (c.skip 2)
  if suffix ≠ [] ∧ c.rest.head? = some '>' then pure (.tag "" suffix, c.skip 1)
  else .error .badTag

/-- Read a tag with a handle.  An exclamation mark alone is a complete tag. -/
def scanShortTag (c : Cursor) : Except Fault (Token × Cursor) := do
  let (handle, c) ← scanHandle c
  let (suffix, c) ← scanSuffix false c
  if isClosedHandle handle then
    if suffix = [] then .error .badTag else pure (.tag handle suffix, c)
  else
    let suffix := (Bytes.ofText handle).drop 1 ++ suffix
    pure (if suffix = [] then .tag "" (Bytes.ofText "!") else .tag "!" suffix, c)

/-- Read the tag that begins here. -/
def scanTag (inFlow : Bool) (c : Cursor) : Except Fault (Token × Cursor) := do
  let (tag, c) ← if (c.rest.drop 1).head? = some '<' then scanCompleteTag c else scanShortTag c
  if endsToken c.rest ∨ (inFlow ∧ c.rest.head? = some ',') then pure (tag, c) else .error .badTag

/-! ## anchors -/

/-- Read the name of an anchor or alias from its indicator on. -/
def scanAnchorName (c : Cursor) : Except Fault (String × Cursor) :=
  let (name, c) := (c.skip 1).span isNameChar
  let ends := endsToken c.rest ||
    (c.rest.head?.map ['?', ':', ',', ']', '\x7d', '%', '@', '\x60'].contains).getD false
  if name ≠ [] ∧ ends then .ok (String.ofList name, c) else .error .badAnchor

/-! ## directives -/

/-- Read a part of a version: at most nine digits. -/
def scanVersionPart (c : Cursor) : Except Fault (Nat × Cursor) :=
  let (digits, c) := c.span Decimal.isDigit
  if digits ≠ [] ∧ digits.length ≤ 9 then .ok (Decimal.value digits, c) else .error .badDirective

/-- Read the version that a directive gives. -/
def scanVersion (c : Cursor) : Except Fault (Token × Cursor) := do
  let (major, c) ← scanVersionPart (c.skipWhile isBlank)
  if c.rest.head? = some '.' then
    let (minor, c) ← scanVersionPart (c.skip 1)
    pure (.version major minor, c)
  else .error .badDirective

/-- Read the handle that a directive gives, and what it stands for. -/
def scanTagHandle (c : Cursor) : Except Fault (Token × Cursor) := do
  let (handle, c) ← scanHandle (c.skipWhile isBlank)
  if (handle = "!" ∨ isClosedHandle handle) ∧ (c.rest.head?.map isBlank).getD false then
    let (start, c) ← scanSuffix true (c.skipWhile isBlank)
    if start ≠ [] ∧ endsToken c.rest then pure (.tagHandle handle start, c)
    else .error .badDirective
  else .error .badDirective

/-- Read the directive whose percent sign stands here, up to the end of its
line. -/
def scanDirective (c : Cursor) : Except Fault (Token × Cursor) := do
  let (name, c) := (c.skip 1).span isNameChar
  if !endsToken c.rest then .error .badDirective
  else
    let (token, c) ←
      if name = ['Y', 'A', 'M', 'L'] then scanVersion c
      else if name = ['T', 'A', 'G'] then scanTagHandle c
      else .error .badDirective
    let c := c.skipToComment
    if (c.rest.head?.map isBreak).getD true then pure (token, c.skipBreak)
    else .error .badDirective

end ComponentBrowser.Yaml
