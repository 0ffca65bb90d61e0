import ComponentBrowser.Text.Hexadecimal
import ComponentBrowser.Yaml.Source
import ComponentBrowser.Yaml.Token

/-!
# ComponentBrowser.Yaml.Scalar

Cutting scalars out of the text.  White space inside a plain or quoted scalar
is a `Gap`: blanks are kept, a single line break becomes a blank, and of
several breaks all but the first are kept.  Block scalars keep or fold the
breaks of their lines by rules of their own.

The readers take one character at a time; the texts that they gather hold the
last character first.
-/

namespace ComponentBrowser.Yaml

/-! ## white space inside a scalar -/

/-- White space whose place in the text is not settled yet. -/
inductive Gap where
  /-- Blanks on one line, the last first. -/
  | blanks (chars : List Char)
  /-- A line break and the breaks of the empty lines behind it, the last first.
  An escaped line break counts as no break. -/
  | breaks (first? : Option Char) (more : List Char)
  deriving DecidableEq

namespace Gap

/-- No white space. -/
def none : Gap := blanks []

/-- A gap with a blank behind it: blanks that begin a line are dropped. -/
def addBlank (c : Char) : Gap → Gap
  | blanks chars => blanks (c :: chars)
  | breaks first? more => breaks first? more

/-- A gap with a break behind it: blanks that end a line are dropped. -/
def addBreak (c : Char) : Gap → Gap
  | blanks _ => breaks (some c) []
  | breaks first? more => breaks first? (c :: more)

/-- Whether the gap reaches over a line break. -/
def crossesLine : Gap → Bool
  | blanks _ => false
  | breaks _ _ => true

/-- A text, the last character first, with a gap behind it. -/
def onto (text : List Char) : Gap → List Char
  | blanks chars => chars ++ text
  | breaks (some '\n') [] => ' ' :: text
  | breaks (some '\n') more => more ++ text
  | breaks first? more => more ++ first?.toList ++ text

end Gap

/-- A scalar that has been read. -/
structure ScannedScalar where
  text : String
  /-- The place behind it. -/
  behind : Cursor
  /-- Whether a line break was passed over behind its last character. -/
  crossedLine : Bool

/-- A scalar, from its characters with the last one first. -/
def ScannedScalar.of (text : List Char) (behind : Cursor) (crossedLine : Bool) : ScannedScalar :=
  ⟨String.ofList text.reverse, behind, crossedLine⟩

/-! ## plain scalars -/

/-- Read a plain scalar.  Its lines after the first begin at least in column
`indent`, except inside brackets. -/
def plainFrom (inFlow : Bool) (indent : Nat) (text : List Char) (gap : Gap) (p : Position) :
    List Char → Except Fault ScannedScalar
  | [] => .ok (.of text ⟨[], p⟩ gap.crossesLine)
  | c :: rest =>
    let ended := ScannedScalar.of text ⟨c :: rest, p⟩ gap.crossesLine
    if isBreak c then plainFrom inFlow indent text (gap.addBreak c) p.nextLine rest
    else if isBlank c then
      if gap.crossesLine ∧ p.column < indent ∧ c = '\t' then .error .tabIndentation
      else plainFrom inFlow indent text (gap.addBlank c) p.next rest
    else if gap ≠ .none ∧
        ((!inFlow ∧ p.column < indent) ∨ c = '#' ∨ (p.column = 0 ∧ isDocumentMark (c :: rest))) then
      .ok ended
    else if inFlow ∧ c = ':' ∧
        (rest.head?.map fun d => d == '?' || isFlowIndicator d) = some true then
      .error .colonBeforeIndicator
    else if (c = ':' ∧ endsToken rest) ∨ (inFlow ∧ isFlowIndicator c) then .ok ended
    else plainFrom inFlow indent (c :: gap.onto text) .none p.next rest

/-- Read the plain scalar that begins here. -/
def scanPlain (inFlow : Bool) (indent : Nat) (c : Cursor) : Except Fault ScannedScalar :=
  plainFrom inFlow indent [] .none c.position c.rest

/-! ## quoted scalars -/

/-- Read a single-quoted scalar from behind its opening quote.  `quoteSeen`
says whether the character before was a quote: a second one stands for a
quote, anything else shows that the first one closed the scalar. -/
def singleFrom (quoteSeen : Bool) (text : List Char) (gap : Gap) (p : Position) :
    List Char → Except Fault ScannedScalar
  | [] => if quoteSeen then .ok (.of text ⟨[], p⟩ false) else .error .openQuote
  | c :: rest =>
    if quoteSeen then
      if c = '\'' then singleFrom false ('\'' :: text) .none p.next rest
      else .ok (.of text ⟨c :: rest, p⟩ false)
    else if isBreak c then singleFrom false text (gap.addBreak c) p.nextLine rest
    else if isBlank c then singleFrom false text (gap.addBlank c) p.next rest
    else if p.column = 0 ∧ isDocumentMark (c :: rest) then .error .markInQuote
    else if c = '\'' then singleFrom true (gap.onto text) .none p.next rest
    else singleFrom false (c :: gap.onto text) .none p.next rest

/-- What an escape asks for. -/
inductive Escape where
  /-- One character. -/
  | char (c : Char)
  /-- The code point given by as many hexadecimal digits. -/
  | digits (count : Nat)

/-- The escape that a letter behind a backslash stands for. -/
def escape? : Char → Option Escape
  | '0' => some (.char '\x00')
  | 'a' => some (.char '\x07')
  | 'b' => some (.char '\x08')
  | 't' => some (.char '\t')
  | '\t' => some (.char '\t')
  | 'n' => some (.char '\n')
  | 'v' => some (.char '\x0b')
  | 'f' => some (.char '\x0c')
  | 'r' => some (.char '\r')
  | 'e' => some (.char '\x1b')
  | ' ' => some (.char ' ')
  | '"' => some (.char '"')
  | '/' => some (.char '/')
  | '\\' => some (.char '\\')
  | 'N' => some (.char '\u0085')
  | '_' => some (.char '\u00a0')
  | 'L' => some (.char '\u2028')
  | 'P' => some (.char '\u2029')
  | 'x' => some (.digits 2)
  | 'u' => some (.digits 4)
  | 'U' => some (.digits 8)
  | _ => none

/-- What the next character of a double-quoted scalar is. -/
inductive QuoteState where
  | content
  /-- The letter of an escape. -/
  | escape
  /-- A digit of an escape, with how many are left and the value so far. -/
  | digit (left value : Nat)

/-- Read a double-quoted scalar from behind its opening quote. -/
def doubleFrom (state : QuoteState) (text : List Char) (gap : Gap) (p : Position) :
    List Char → Except Fault ScannedScalar
  | [] => .error .openQuote
  | c :: rest =>
    match state with
    | .digit left value =>
      match Hexadecimal.value? c with
      | none => .error .badEscape
      | some d =>
        let value := 16 * value + d
        if 1 < left then doubleFrom (.digit (left - 1) value) text gap p.next rest
        else if value.isValidChar then
          doubleFrom .content (Char.ofNat value :: text) .none p.next rest
        else .error .badEscape
    | .escape =>
      if isBreak c then doubleFrom .content text (.breaks none []) p.nextLine rest
      else match escape? c with
        | some (.char d) => doubleFrom .content (d :: text) .none p.next rest
        | some (.digits count) => doubleFrom (.digit count 0) text .none p.next rest
        | none => .error .badEscape
    | .content =>
      if isBreak c then doubleFrom .content text (gap.addBreak c) p.nextLine rest
      else if isBlank c then doubleFrom .content text (gap.addBlank c) p.next rest
      else if p.column = 0 ∧ isDocumentMark (c :: rest) then .error .markInQuote
      else if c = '"' then .ok (.of (gap.onto text) ⟨rest, p.next⟩ false)
      else if c = '\\' then doubleFrom .escape (gap.onto text) .none p.next rest
      else doubleFrom .content (c :: gap.onto text) .none p.next rest

/-- Read the quoted scalar whose opening quote stands here. -/
def scanQuoted (double : Bool) (c : Cursor) : Except Fault ScannedScalar :=
  let c := c.skip 1
  if double then doubleFrom .content [] .none c.position c.rest
  else singleFrom false [] .none c.position c.rest

/-! ## block scalars -/

/-- What becomes of the line breaks at the end of a block scalar. -/
inductive Chomping where
  /-- All are dropped. -/
  | strip
  /-- The first is kept. -/
  | clip
  /-- All are kept. -/
  | keep
  deriving DecidableEq

/-- What is known of a block scalar after some of its lines. -/
structure BlockText where
  /-- The text so far, the last character first. -/
  text : List Char
  /-- The break that ended the last line with content. -/
  ended? : Option Char
  /-- The breaks of the empty lines behind it, the last first. -/
  empty : List Char
  /-- Whether the last line with content began with a blank. -/
  indented : Bool
  /-- The column of the content, once it is known. -/
  indent? : Option Nat
  /-- The greatest column reached by a line before the content. -/
  deepest : Nat

namespace BlockText

/-- A line with content begins with character `c`.  In a folded scalar, the
break between two lines that begin with no blank becomes a blank, or nothing if
empty lines stand between them. -/
def beginLine (s : BlockText) (folded : Bool) (indent : Nat) (c : Char) : BlockText :=
  let folds := folded && s.ended? == some '\n' && !s.indented && !isBlank c
  let text :=
    if folds then if s.empty = [] then ' ' :: s.text else s.text
    else s.ended?.toList ++ s.text
  { s with
    text := c :: (s.empty ++ text)
    ended? := none
    empty := []
    indented := isBlank c
    indent? := some indent }

/-- The whole text, the last character first. -/
def finish (s : BlockText) (chomping : Chomping) : List Char :=
  let text := if chomping = .strip then s.text else s.ended?.toList ++ s.text
  if chomping = .keep then s.empty ++ text else text

end BlockText

/-- Read the lines of a block scalar.  `inLine` says whether the next character
belongs to the content of a line or to the space before it. -/
def blockFrom (folded : Bool) (chomping : Chomping) (least : Nat) (inLine : Bool) (s : BlockText)
    (p : Position) : List Char → Except Fault ScannedScalar
  | [] => .ok (.of (s.finish chomping) ⟨[], p⟩ false)
  | c :: rest =>
    if inLine then
      if isBreak c then
        blockFrom folded chomping least false { s with ended? := some c } p.nextLine rest
      else blockFrom folded chomping least true { s with text := c :: s.text } p.next rest
    else
      let within := (s.indent?.map (decide <| p.column < ·)).getD true
      if within ∧ c = ' ' then blockFrom folded chomping least false s p.next rest
      else if within ∧ c = '\t' then .error .tabIndentation
      else if isBreak c then
        blockFrom folded chomping least false
          { s with empty := c :: s.empty, deepest := max s.deepest p.column } p.nextLine rest
      else
        let indent := s.indent?.getD (max (max s.deepest p.column) least)
        if p.column = indent then
          blockFrom folded chomping least true (s.beginLine folded indent c) p.next rest
        else .ok (.of (s.finish chomping) ⟨c :: rest, p⟩ false)

/-- The header of a block scalar: how it ends, and by how much it is indented.
The two may stand in either order. -/
def blockHeader (cs : List Char) : Except Fault (Chomping × Option Nat × Nat) :=
  let chomping? := fun (c : Char) =>
    if c = '+' then some Chomping.keep else if c = '-' then some Chomping.strip else none
  let increment := fun (c : Char) =>
    if c = '0' then Except.error Fault.badBlockHeader else .ok (some (Decimal.digitValue c))
  match cs with
  | a :: rest =>
    match chomping? a with
    | some chomping =>
      match rest with
      | b :: _ =>
        if Decimal.isDigit b then (increment b).map (chomping, ·, 2) else .ok (chomping, none, 1)
      | [] => .ok (chomping, none, 1)
    | none =>
      if Decimal.isDigit a then
        match rest.head?.bind chomping? with
        | some chomping => (increment a).map (chomping, ·, 2)
        | none => (increment a).map (.clip, ·, 1)
      else .ok (.clip, none, 0)
  | [] => .ok (.clip, none, 0)

/-- Read the block scalar whose indicator stands here, inside a block that is
indented by `indent`, which is negative outside all blocks. -/
def scanBlock (folded : Bool) (indent : Int) (c : Cursor) : Except Fault ScannedScalar := do
  let c := c.skip 1
  let (chomping, increment?, length) ← blockHeader c.rest
  let c := (c.skip length).skipToComment
  if (c.rest.head?.map isBreak).getD true then
    let c := c.skipBreak
    let given? := increment?.map fun n => indent.toNat + n
    blockFrom folded chomping (max (indent + 1).toNat 1) false ⟨[], none, [], false, given?, 0⟩
      c.position c.rest
  else .error .badBlockHeader

end ComponentBrowser.Yaml
