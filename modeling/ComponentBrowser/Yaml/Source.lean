import ComponentBrowser.Text.Decimal

/-!
# ComponentBrowser.Yaml.Source

The text of a YAML stream before it is cut into tokens: its character classes,
positions in it, and why a stream can be refused.

* `normalize` writes every line break that is read as a line feed as one, so
  that the rest of the reader knows three break characters;
* `Cursor` is a place in the text: what is left to read, and where that stands.
-/

namespace ComponentBrowser.Yaml

/-! ## faults -/

/-- Why a stream cannot be read, or does not hold what it should. -/
inductive Fault where
  /-- A character that no stream may hold. -/
  | forbiddenCharacter
  /-- A character that no token starts with. -/
  | strayCharacter (c : Char)
  /-- A tab where only blanks may indent. -/
  | tabIndentation
  /-- A quoted scalar that does not end. -/
  | openQuote
  /-- The mark of a document inside a quoted scalar. -/
  | markInQuote
  | badEscape
  /-- A colon before a flow indicator inside a plain scalar. -/
  | colonBeforeIndicator
  | badBlockHeader
  | badAnchor
  | badTag
  | unknownTagHandle (handle : String)
  | badDirective
  | repeatedDirective
  /-- A mapping key that no colon follows. -/
  | keyWithoutColon
  /-- A sequence entry, key or value where none may begin. -/
  | misplacedIndicator
  /-- A token that does not continue the structure before it. -/
  | unexpectedToken
  | unknownAnchor (name : String)
  | severalDocuments
  /-- A node of another kind than expected. -/
  | wrongKind (expected : String)
  | repeatedKey (key : String)
  | missingKey (key : String)
  deriving DecidableEq

/-- The description of a fault. -/
def Fault.message : Fault → String
  | forbiddenCharacter => "control characters are not allowed"
  | strayCharacter _ => "found character that cannot start any token"
  | tabIndentation => "found a tab character where indentation is expected"
  | openQuote => "found unexpected end of stream in a quoted scalar"
  | markInQuote => "found unexpected document indicator in a quoted scalar"
  | badEscape => "found an invalid escape in a quoted scalar"
  | colonBeforeIndicator => "found unexpected ':' in a plain scalar"
  | badBlockHeader => "found an invalid header of a block scalar"
  | badAnchor => "did not find expected name of an anchor"
  | badTag => "did not find expected tag"
  | unknownTagHandle handle => "found undefined tag handle " ++ handle
  | badDirective => "found an invalid directive"
  | repeatedDirective => "found duplicate directive"
  | keyWithoutColon => "could not find expected ':'"
  | misplacedIndicator => "block entries, keys and values are not allowed in this context"
  | unexpectedToken => "did not find expected node content"
  | unknownAnchor name => "unknown anchor " ++ name
  | severalDocuments => "the stream contains more than one document"
  | wrongKind expected => "invalid type, expected " ++ expected
  | repeatedKey key => "duplicate field " ++ key
  | missingKey key => "missing field " ++ key

/-! ## characters -/

/-- Whether a stream may hold a character. -/
def isAllowed (c : Char) : Bool :=
  let n := c.toNat
  n == 0x09 || n == 0x0A || n == 0x0D || (0x20 ≤ n && n ≤ 0x7E) || n == 0x85 ||
    (0xA0 ≤ n && n ≤ 0xFFFD) || 0x10000 ≤ n

/-- A line break, once the text is normalized. -/
def isBreak (c : Char) : Bool := c == '\n' || c == '\u2028' || c == '\u2029'

/-- A blank within a line. -/
def isBlank (c : Char) : Bool := c == ' ' || c == '\t'

/-- A character of names. -/
def isNameChar (c : Char) : Bool := c.isAlphanum || c == '_' || c == '-'

/-- A character that ends a plain scalar inside brackets. -/
def isFlowIndicator (c : Char) : Bool :=
  c == ',' || c == '[' || c == ']' || c == '\x7b' || c == '\x7d'

/-- Whether a token ends here: before a blank, a break or the end of the text. -/
def endsToken : List Char → Bool
  | [] => true
  | c :: _ => isBlank c || isBreak c

/-- Whether three equal characters stand here on their own. -/
def isTriple (mark : Char) : List Char → Bool
  | a :: b :: c :: rest => a == mark && b == mark && c == mark && endsToken rest
  | _ => false

/-- Whether the mark of a document's start or end stands here; it counts at the
beginning of a line. -/
def isDocumentMark (cs : List Char) : Bool := isTriple '-' cs || isTriple '.' cs

/-- The text with carriage returns, alone or before a line feed, and next-line
characters written as line feeds. -/
def normalize (cs : List Char) : List Char :=
  (cs.foldr (fun c (beforeLineFeed, kept) =>
    if c = '\r' then (false, if beforeLineFeed then kept else '\n' :: kept)
    else if c = '\u0085' then (false, '\n' :: kept)
    else (c == '\n', c :: kept)) (false, ([] : List Char))).2

/-! ## places -/

/-- A position in the text, counted from zero. -/
structure Position where
  index : Nat
  line : Nat
  column : Nat
  deriving DecidableEq

/-- The position after a character within a line. -/
def Position.next (p : Position) : Position := ⟨p.index + 1, p.line, p.column + 1⟩

/-- The position after a line break. -/
def Position.nextLine (p : Position) : Position := ⟨p.index + 1, p.line + 1, 0⟩

/-- A place in the text: what is left to read from a position on. -/
structure Cursor where
  rest : List Char
  position : Position

namespace Cursor

/-- The beginning of a text. -/
def start (cs : List Char) : Cursor := ⟨cs, 0, 0, 0⟩

/-- Pass over characters within a line. -/
def skip (c : Cursor) (n : Nat) : Cursor :=
  ⟨c.rest.drop n, c.position.index + n, c.position.line, c.position.column + n⟩

/-- The characters in front that satisfy a condition, which no break may, and
the place behind them. -/
def span (c : Cursor) (p : Char → Bool) : List Char × Cursor :=
  let cs := c.rest.takeWhile p
  (cs, c.skip cs.length)

/-- Pass over the characters in front that satisfy a condition. -/
def skipWhile (c : Cursor) (p : Char → Bool) : Cursor := (c.span p).2

/-- Pass over blanks, and over a comment behind them. -/
def skipToComment (c : Cursor) : Cursor :=
  let c := c.skipWhile isBlank
  if c.rest.head? = some '#' then c.skipWhile (!isBreak ·) else c

/-- Pass over a line break, if one stands here. -/
def skipBreak (c : Cursor) : Cursor :=
  match c.rest with
  | b :: rest => if isBreak b then ⟨rest, c.position.nextLine⟩ else c
  | [] => c

end Cursor

end ComponentBrowser.Yaml
