import ComponentBrowser.Loop
import ComponentBrowser.Yaml.Scalar
import ComponentBrowser.Yaml.Tag

/-!
# ComponentBrowser.Yaml.Lexer

Cutting a YAML stream into tokens.  A scalar or collection that a colon follows
on the same line was a mapping key all along: the lexer remembers where such a
*candidate* began, and puts the tokens for the key there once it sees the colon.

* `Token.ofText` gives the tokens of a stream.
-/

namespace ComponentBrowser.Yaml

/-- Where a mapping key may have begun. -/
structure Candidate where
  /-- How many tokens stand before it. -/
  number : Nat
  position : Position
  /-- Whether it can be nothing but a key. -/
  required : Bool

/-- What a lexer knows between two tokens. -/
structure Lexer where
  cursor : Cursor
  /-- The tokens so far, the last first. -/
  tokens : List Token
  /-- How many tokens there are. -/
  count : Nat
  /-- The column of the innermost block collection, or -1 outside all. -/
  indent : Int
  /-- The columns of the blocks around it, from the inside out. -/
  outer : List Int
  /-- The candidate of the innermost pair of brackets. -/
  candidate? : Option Candidate
  /-- The candidates around each pair of open brackets, from the inside out. -/
  around : List (Option Candidate)
  /-- Whether a mapping key may begin here. -/
  keyAllowed : Bool

namespace Lexer

/-- How many characters a mapping key may have before its colon. -/
def keyLimit : Nat := 1024

/-- A lexer at the beginning of a text. -/
def start (cs : List Char) : Lexer := ⟨.start cs, [], 0, -1, [], none, [], true⟩

/-- Whether the lexer stands inside brackets. -/
def inFlow (l : Lexer) : Bool := !l.around.isEmpty

/-- The column that the lexer stands in. -/
def column (l : Lexer) : Nat := l.cursor.position.column

/-! ## tokens and indentation -/

/-- Add a token at the end. -/
def emit (l : Lexer) (t : Token) : Lexer :=
  { l with tokens := t :: l.tokens, count := l.count + 1 }

/-- Add a token of some characters at the end and pass over these. -/
def emitOver (l : Lexer) (t : Token) (length : Nat) : Lexer :=
  { l.emit t with cursor := l.cursor.skip length }

/-- Put a token behind the first `number` ones. -/
def insert (l : Lexer) (number : Nat) (t : Token) : Lexer :=
  let later := l.count - number
  { l with tokens := l.tokens.take later ++ t :: l.tokens.drop later, count := l.count + 1 }

/-- Begin a block collection in a column behind the first `number` tokens,
unless one of that column is open or the lexer stands inside brackets. -/
def indentTo (l : Lexer) (column number : Nat) (opening : Token) : Lexer :=
  if !l.inFlow && l.indent < column then
    { l.insert number opening with indent := column, outer := l.indent :: l.outer }
  else l

/-- Close block collections, from the inside out, that are indented further
than a column. -/
def closeBlocks (l : Lexer) (column : Int) : List Int → Lexer
  | [] => { l with outer := [] }
  | around :: rest =>
    if column < l.indent then closeBlocks { l.emit .blockEnd with indent := around } column rest
    else { l with outer := around :: rest }

/-- Close the block collections that are indented further than a column; none
ends inside brackets. -/
def dedentTo (l : Lexer) (column : Int) : Lexer :=
  if l.inFlow then l else l.closeBlocks column l.outer

/-! ## candidates for keys -/

/-- Give up the innermost candidate. -/
def dropCandidate (l : Lexer) : Except Fault Lexer :=
  match l.candidate? with
  | some k => if k.required then .error .keyWithoutColon else .ok { l with candidate? := none }
  | none => .ok l

/-- Note that a key may begin here, if one is allowed. -/
def noteCandidate (l : Lexer) : Except Fault Lexer :=
  if l.keyAllowed then
    let required := !l.inFlow && l.indent == l.column
    l.dropCandidate.map fun l =>
      { l with candidate? := some ⟨l.count, l.cursor.position, required⟩ }
  else .ok l

/-- Give up the innermost candidate once the lexer has left its line or gone too
far.  Those around it wait until their brackets are closed. -/
def freshen (l : Lexer) : Except Fault Lexer :=
  let p := l.cursor.position
  match l.candidate? with
  | some k =>
    if k.position.line < p.line ∨ k.position.index + keyLimit < p.index then l.dropCandidate
    else .ok l
  | none => .ok l

/-! ## the space between tokens -/

/-- Pass over blanks, comments and line breaks.  A tab separates tokens only
where no key may begin; a new line outside brackets allows keys. -/
def skipSpace (inFlow inComment keyAllowed : Bool) (p : Position) : List Char → Cursor × Bool
  | [] => (⟨[], p⟩, keyAllowed)
  | c :: rest =>
    if isBreak c then skipSpace inFlow false (keyAllowed || !inFlow) p.nextLine rest
    else if inComment || c == ' ' || (c == '\t' && (inFlow || !keyAllowed)) ||
        (c == '\uFEFF' && p.column == 0) then
      skipSpace inFlow inComment keyAllowed p.next rest
    else if c = '#' then skipSpace inFlow true keyAllowed p.next rest
    else (⟨c :: rest, p⟩, keyAllowed)

/-! ## tokens -/

/-- The mark of a document's start or end, or a directive: all blocks end. -/
def documentBoundary (l : Lexer) : Except Fault Lexer :=
  (l.dedentTo (-1)).dropCandidate.map fun l => { l with keyAllowed := false }

/-- An opening bracket. -/
def openFlow (l : Lexer) (t : Token) : Except Fault Lexer :=
  l.noteCandidate.map fun l =>
    { l.emitOver t 1 with
      candidate? := none, around := l.candidate? :: l.around, keyAllowed := true }

/-- A closing bracket. -/
def closeFlow (l : Lexer) (t : Token) : Except Fault Lexer :=
  l.dropCandidate.map fun l =>
    let l := { l.emitOver t 1 with keyAllowed := false }
    match l.around with
    | candidate? :: around => { l with candidate?, around }
    | [] => l

/-- The dash of a sequence entry. -/
def blockEntry (l : Lexer) : Except Fault Lexer :=
  if l.inFlow || l.keyAllowed then
    (l.indentTo l.column l.count .blockSequenceStart).dropCandidate.map fun l =>
      { l.emitOver .blockEntry 1 with keyAllowed := true }
  else .error .misplacedIndicator

/-- The question mark of a key. -/
def complexKey (l : Lexer) : Except Fault Lexer :=
  if l.inFlow || l.keyAllowed then
    (l.indentTo l.column l.count .blockMappingStart).dropCandidate.map fun l =>
      { l.emitOver .key 1 with keyAllowed := !l.inFlow }
  else .error .misplacedIndicator

/-- The colon of a value.  If a candidate stands before it, that was a key. -/
def value (l : Lexer) : Except Fault Lexer :=
  match l.candidate? with
  | some k =>
    let l := (l.insert k.number .key).indentTo k.position.column k.number .blockMappingStart
    .ok { l.emitOver .value 1 with candidate? := none, keyAllowed := false }
  | none =>
    if l.inFlow || l.keyAllowed then
      let l := l.indentTo l.column l.count .blockMappingStart
      .ok { l.emitOver .value 1 with keyAllowed := !l.inFlow }
    else .error .misplacedIndicator

/-- A token that may begin a key: an anchor, alias or tag. -/
def property (l : Lexer) (scan : Cursor → Except Fault (Token × Cursor)) : Except Fault Lexer := do
  let l ← l.noteCandidate
  let (t, cursor) ← scan l.cursor
  pure { l.emit t with cursor, keyAllowed := false }

/-- A plain or quoted scalar, which may be a key. -/
def scalar (l : Lexer) (style : Style) (scan : Cursor → Except Fault ScannedScalar) :
    Except Fault Lexer := do
  let l ← l.noteCandidate
  let s ← scan l.cursor
  pure { l.emit (.scalar s.text style) with cursor := s.behind, keyAllowed := s.crossedLine }

/-- A block scalar, which cannot be a key. -/
def blockScalar (l : Lexer) (style : Style) : Except Fault Lexer := do
  let l ← l.dropCandidate
  let s ← scanBlock (style = .folded) l.indent l.cursor
  pure { l.emit (.scalar s.text style) with cursor := s.behind, keyAllowed := true }

/-- The characters that have a meaning of their own in front of a token. -/
def isIndicator (c : Char) : Bool :=
  isFlowIndicator c || ['-', '?', ':', '#', '&', '*', '!', '|', '>', '\'', '"', '%', '@',
    '\x60'].contains c

/-- Whether a plain scalar begins with a character, given what follows it. -/
def beginsPlain (inFlow : Bool) (c : Char) (rest : List Char) : Bool :=
  (!isIndicator c && !isBlank c) || (c == '-' && !(rest.head?.map isBlank).getD false) ||
    (!inFlow && (c == '?' || c == ':') && !endsToken rest)

/-- Read the token that begins with a character. -/
def token (l : Lexer) (c : Char) (rest : List Char) : Except Fault Lexer :=
  let name := fun (make : String → Token) (c : Cursor) =>
    (scanAnchorName c).map fun (name, c) => (make name, c)
  if l.column = 0 ∧ c = '%' then do
    let l ← l.documentBoundary
    let (t, cursor) ← scanDirective l.cursor
    pure { l.emit t with cursor }
  else if l.column = 0 ∧ isTriple '-' (c :: rest) then
    l.documentBoundary.map (·.emitOver .documentStart 3)
  else if l.column = 0 ∧ isTriple '.' (c :: rest) then
    l.documentBoundary.map (·.emitOver .documentEnd 3)
  else if c = '[' then l.openFlow .flowSequenceStart
  else if c = '\x7b' then l.openFlow .flowMappingStart
  else if c = ']' then l.closeFlow .flowSequenceEnd
  else if c = '\x7d' then l.closeFlow .flowMappingEnd
  else if c = ',' then
    l.dropCandidate.map fun l => { l.emitOver .flowEntry 1 with keyAllowed := true }
  else if c = '-' ∧ endsToken rest then l.blockEntry
  else if c = '?' ∧ (l.inFlow ∨ endsToken rest) then l.complexKey
  else if c = ':' ∧ (l.inFlow ∨ endsToken rest) then l.value
  else if c = '*' then l.property (name .alias)
  else if c = '&' then l.property (name .anchor)
  else if c = '!' then l.property (scanTag l.inFlow)
  else if c = '|' ∧ !l.inFlow then l.blockScalar .literal
  else if c = '>' ∧ !l.inFlow then l.blockScalar .folded
  else if c = '\'' then l.scalar .singleQuoted (scanQuoted false)
  else if c = '"' then l.scalar .doubleQuoted (scanQuoted true)
  else if beginsPlain l.inFlow c rest then
    l.scalar .plain (scanPlain l.inFlow (l.indent + 1).toNat)
  else .error (.strayCharacter c)

/-- Pass over the space here, and close the blocks that end with it. -/
def approach (l : Lexer) : Except Fault Lexer :=
  let (cursor, keyAllowed) :=
    skipSpace l.inFlow false l.keyAllowed l.cursor.position l.cursor.rest
  { l with cursor, keyAllowed }.freshen.map fun (l : Lexer) => l.dedentTo l.column

/-- Read the next token, or end behind the last one. -/
def round (l : Lexer) : Round Lexer (Except Fault (List Token)) :=
  match l.approach with
  | .error fault => .done (.error fault)
  | .ok l =>
    match l.cursor.rest with
    | [] => .done ((l.dedentTo (-1)).dropCandidate.map (·.tokens.reverse))
    | c :: rest => .ofExcept (l.token c rest)

/-- Read all tokens; each takes at least one character. -/
def run (l : Lexer) : Except Fault (List Token) :=
  (loop? round (l.cursor.rest.length + 1) l).getD (.error .unexpectedToken)

end Lexer

/-- The tokens of a stream. -/
def Token.ofText (s : String) : Except Fault (List Token) :=
  let cs := s.toList
  if cs.all isAllowed then (Lexer.start (normalize cs)).run else .error .forbiddenCharacter

end ComponentBrowser.Yaml
