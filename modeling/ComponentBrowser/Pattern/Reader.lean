import ComponentBrowser.Pattern.Bracket
import ComponentBrowser.Pattern.Choice
import ComponentBrowser.Text.Alphanumeric

/-!
# ComponentBrowser.Pattern.Reader

The text of a pattern: characters, sets, anchors, alternatives, repetitions and
groups, which may have names and set options for what they hold.  A pattern is
read from left to right, the groups around a place being kept as frames.

The edges of words are known within ASCII only.
-/

namespace ComponentBrowser.Pattern

/-- Why a text is no pattern. -/
inductive Fault where
  | malformed
  /-- The edge of a word is asked for where characters are those of Unicode. -/
  | wordEdge
  deriving DecidableEq, Repr

/-- The description of a fault in a pattern. -/
def Fault.message : Fault → String
  | malformed => "error building NFA"
  | wordEdge =>
    "unsupported regex feature for DFAs: cannot build DFAs for regexes with Unicode word " ++
      "boundaries; switch to ASCII word boundaries, or heuristically enable Unicode word " ++
      "boundaries or use a different regex engine"

/-- A part of a pattern. -/
structure Piece where
  pattern : Pattern
  /-- How deep its text is nested. -/
  depth : Nat
  /-- Whether it can be repeated; options cannot. -/
  isRepeatable : Bool := true

namespace Piece

/-- Pieces put together by `join`, the last one first; one stays alone. -/
def together (join : List Pattern → Pattern) : List Piece → Piece
  | [] => ⟨.empty, 0, true⟩
  | [p] => p
  | pieces =>
    ⟨join (pieces.reverse.map (·.pattern)), (pieces.map (·.depth)).foldl max 0 + 1, true⟩

end Piece

/-- What stands before a group, and the options that apply behind it. -/
structure Frame where
  /-- The number of the group, if it has one. -/
  number? : Option Nat
  /-- The pieces since the last bar, the last one first. -/
  pieces : List Piece
  /-- The alternatives before, the last one first. -/
  alternatives : List Piece
  options : Options

/-- What is known after some characters. -/
structure Reader where
  pieces : List Piece
  alternatives : List Piece
  options : Options
  /-- The groups that are open, the innermost first. -/
  frames : List Frame
  /-- How many groups with numbers there are. -/
  groups : Nat
  /-- The names of groups. -/
  names : List String
  /-- Whether the edge of a word has been asked for outside ASCII. -/
  needsWordEdge : Bool
  rest : List Char

namespace Reader

/-- Before the first character. -/
def start (cs : List Char) : Reader := ⟨[], [], {}, [], 0, [], false, cs⟩

/-- How deep the text of a pattern may be nested. -/
def maxDepth : Nat := 250

/-- With one more piece, before the rest of the text. -/
def push (r : Reader) (p : Piece) (rest : List Char) : Reader :=
  { r with pieces := p :: r.pieces, rest }

/-! ## single things -/

/-- The set of one character. -/
def charSet? (o : Options) (c : Char) (isByte : Bool) : Option CodePoints :=
  if o.unicode then if o.anyCase then none else some (.single c)
  else if isByte && 0x80 ≤ c.toNat then none
  else some (NestedSet.folded o (.single c))

/-- Whether a look asks for the edge of a word. -/
def isWordLook : Look → Bool
  | .wordEdge | .noWordEdge | .wordStart | .wordEnd => true
  | _ => false

/-- Read a single thing. -/
def atom? (r : Reader) (atom : Atom) (rest : List Char) : Option Reader :=
  match atom with
  | .char c isByte => (charSet? r.options c isByte).map fun s => r.push ⟨.one s, 0, true⟩ rest
  | .named s isNegated =>
    if r.options.unicode || isNegated then none else some (r.push ⟨.one s, 0, true⟩ rest)
  | .look l =>
    let r := { r with needsWordEdge := r.needsWordEdge || (isWordLook l && r.options.unicode) }
    some (r.push ⟨.look l, 0, true⟩ rest)

/-! ## repetitions -/

/-- Repeat the last piece.  A question mark behind the repetition makes it
ungreedy. -/
def repeat? (r : Reader) (again : Bool → Pattern → Pattern) (rest : List Char) : Option Reader :=
  match r.pieces with
  | p :: pieces =>
    if p.isRepeatable then
      let isLazy := rest.head? == some '?'
      let greedy := isLazy == r.options.swapGreed
      let repeated : Piece := ⟨again greedy p.pattern, p.depth + 1, true⟩
      some { r with pieces := repeated :: pieces, rest := if isLazy then rest.drop 1 else rest }
    else none
  | [] => none

/-! ## groups -/

/-- Whether a character can stand in the name of a group. -/
def isNameChar (isFirst : Bool) (c : Char) : Bool :=
  if isFirst then c == '_' || Text.isLetter c
  else c == '_' || c == '.' || c == '[' || c == ']' || Text.isAlphanumeric c

/-- Read the name of a group up to the angle bracket behind it.  `seen` holds
its characters so far, the last one first. -/
def readName? (seen : List Char) : List Char → Option (String × List Char)
  | [] => none
  | c :: rest =>
    if c = '>' then if seen = [] then none else some (String.ofList seen.reverse, rest)
    else if isNameChar seen.isEmpty c then readName? (c :: seen) rest
    else none

/-- Open a group whose options are given. -/
def openGroup (r : Reader) (number? : Option Nat) (o : Options) (rest : List Char) : Reader :=
  { r with
    pieces := []
    alternatives := []
    options := o
    frames := ⟨number?, r.pieces, r.alternatives, r.options⟩ :: r.frames
    rest }

/-- Open a group with the next number. -/
def openNumbered (r : Reader) (rest : List Char) : Reader :=
  { r with groups := r.groups + 1 }.openGroup (some r.groups) r.options rest

/-- Open a group with a name, which no other group may have. -/
def openNamed? (r : Reader) (rest : List Char) : Option Reader := do
  let (name, rest) ← readName? [] rest
  if r.names.contains name then none
  else some ({ r with names := name :: r.names }.openNumbered rest)

/-- Read options, for the rest of a group or for a group of their own. -/
def openWithOptions? (r : Reader) (rest : List Char) : Option Reader := do
  let read ← Options.read? r.options [] rest
  if read.isClosed then
    if read.isEmpty then none
    else some ({ r with options := read.options }.push ⟨.empty, 0, false⟩ read.rest)
  else some (r.openGroup none read.options read.rest)

/-- Read the beginning of a group.  There is no looking ahead or behind. -/
def group? (r : Reader) (rest : List Char) : Option Reader :=
  match r.options.skip rest with
  | '?' :: '=' :: _ => none
  | '?' :: '!' :: _ => none
  | '?' :: '<' :: '=' :: _ => none
  | '?' :: '<' :: '!' :: _ => none
  | '?' :: 'P' :: '<' :: rest => r.openNamed? rest
  | '?' :: '<' :: rest => r.openNamed? rest
  | '?' :: rest => r.openWithOptions? rest
  | rest => some (r.openNumbered rest)

/-- The alternatives that have been read, as one piece. -/
def whole (r : Reader) : Piece :=
  Piece.together choice (Piece.together sequence r.pieces :: r.alternatives)

/-- Read the end of a group. -/
def close? (r : Reader) (rest : List Char) : Option Reader :=
  match r.frames with
  | f :: frames =>
    let inner := r.whole
    let pattern := match f.number? with
      | some number => group number inner.pattern
      | none => inner.pattern
    let piece : Piece := ⟨pattern, inner.depth + 1, true⟩
    some
      { r with
        pieces := piece :: f.pieces
        alternatives := f.alternatives
        options := f.options
        frames
        rest }
  | [] => none

/-! ## the whole text -/

/-- Read on by one thing. -/
def step? (r : Reader) : List Char → Option Reader
  | [] => none
  | c :: rest =>
    match c with
    | '(' => r.group? rest
    | ')' => r.close? rest
    | '|' =>
      some
        { r with
          pieces := []
          alternatives := Piece.together sequence r.pieces :: r.alternatives
          rest }
    | '[' =>
      (Bracket.read? r.options rest).map fun (s, rest) =>
        r.push ⟨.one s.set, s.depth, true⟩ rest
    | '?' => r.repeat? perhaps rest
    | '*' => r.repeat? repeatedly rest
    | '+' => r.repeat? repeatedlyAtLeastOnce rest
    | '\x7b' => none
    | '\\' => (Atom.read? r.options rest).bind fun (atom, rest) => r.atom? atom rest
    | '.' => r.options.dot?.map fun s => r.push ⟨.one s, 0, true⟩ rest
    | '^' => r.atom? (.look r.options.startAnchor) rest
    | '$' => r.atom? (.look r.options.endAnchor) rest
    | _ => r.atom? (.char c false) rest

/-- Read on, unless this is the end. -/
def round (r : Reader) : Round Reader (Option Reader) :=
  match r.options.skip r.rest with
  | [] => .done (if r.frames.isEmpty then some r else none)
  | cs => .ofOption (r.step? cs)

/-- Read on to the end.  Each step takes a character. -/
def finish? (r : Reader) : Option Reader := (loop? round (r.rest.length + 1) r).join

end Reader

/-- Read a pattern. -/
def parse (text : String) : Except Fault Pattern :=
  match (Reader.start text.toList).finish? with
  | none => .error .malformed
  | some r =>
    if Reader.maxDepth < r.whole.depth then .error .malformed
    else if r.needsWordEdge then .error .wordEdge
    else .ok r.whole.pattern

end ComponentBrowser.Pattern
