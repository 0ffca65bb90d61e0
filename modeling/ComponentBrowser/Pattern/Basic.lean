import ComponentBrowser.Text.CodePoints

/-!
# ComponentBrowser.Pattern.Basic

Patterns of texts, as trees.
-/

namespace ComponentBrowser

/-- What a pattern may ask about the place where it stands. -/
inductive Look where
  | textStart
  | textEnd
  | lineStart
  | lineEnd
  /-- The start of a line where a carriage return ends lines too. -/
  | recordStart
  | recordEnd
  | wordEdge
  | noWordEdge
  | wordStart
  | wordEnd
  deriving DecidableEq, Repr

/-- A pattern. -/
inductive Pattern where
  | empty
  | look (l : Look)
  /-- One character of a set. -/
  | one (s : CodePoints)
  | seq (p q : Pattern)
  /-- One of two patterns, rather the first. -/
  | either (p q : Pattern)
  /-- A pattern or nothing; rather the pattern if greedy, else rather nothing. -/
  | perhaps (greedy : Bool) (p : Pattern)
  | anyTimes (greedy : Bool) (p : Pattern)
  | atLeastOnce (greedy : Bool) (p : Pattern)
  /-- A part with a number of its own. -/
  | group (number : Nat) (p : Pattern)
  deriving DecidableEq, Repr

namespace Look

/-- Whether a character belongs to a word. -/
def isWordChar (c : Char) : Bool := c.isAlphanum || c == '_'

/-- Whether a look is satisfied between two characters, of which either may be
missing. -/
def holds (before? after? : Option Char) : Look → Bool
  | textStart => before?.isNone
  | textEnd => after?.isNone
  | lineStart => before?.isNone || before? == some '\n'
  | lineEnd => after?.isNone || after? == some '\n'
  | recordStart =>
    before?.isNone || before? == some '\n' || (before? == some '\r' && after? != some '\n')
  | recordEnd =>
    after?.isNone || after? == some '\r' || (after? == some '\n' && before? != some '\r')
  | wordEdge => before?.any isWordChar != after?.any isWordChar
  | noWordEdge => before?.any isWordChar == after?.any isWordChar
  | wordStart => !before?.any isWordChar && after?.any isWordChar
  | wordEnd => before?.any isWordChar && !after?.any isWordChar

/-- Whether the character in front is enough to satisfy a look. -/
def holdsAfter (before? : Option Char) : Look → Bool
  | textStart => before?.isNone
  | lineStart | recordStart => before?.isNone || before? == some '\n'
  | _ => false

end Look

namespace Pattern

/-! ## parts -/

/-- The patterns that stand one after another in a pattern. -/
def elements : Pattern → List Pattern
  | empty => []
  | seq p q => p.elements ++ q.elements
  | p => [p]

/-- Elements one after another. -/
def join : List Pattern → Pattern
  | [] => empty
  | [p] => p
  | p :: rest => seq p (join rest)

/-- Patterns one after another. -/
def sequence (ps : List Pattern) : Pattern := join (ps.flatMap elements)

/-- The alternatives of a pattern, the preferred ones first. -/
def branches : Pattern → List Pattern
  | either p q => p.branches ++ q.branches
  | p => [p]

/-- One of some patterns, rather the earlier ones. -/
def oneOf : List Pattern → Pattern
  | [] => empty
  | [p] => p
  | p :: rest => either p (oneOf rest)

/-- The set of a pattern for one character. -/
def set? : Pattern → Option CodePoints
  | one s => some s
  | _ => none

/-- Whether a pattern stands for a certain character. -/
def isLiteral : Pattern → Bool
  | one ⟨[low, high]⟩ => high == low + 1
  | _ => false

/-! ## sizes -/

/-- How many parts a pattern has. -/
def size : Pattern → Nat
  | empty | look _ | one _ => 1
  | seq p q | either p q => p.size + q.size + 1
  | perhaps _ p | anyTimes _ p | atLeastOnce _ p | group _ p => p.size + 1

/-- The least number of characters that a pattern takes; none for one that no
text fits. -/
def leastLength? : Pattern → Option Nat
  | empty | look _ => some 0
  | one s => if s = .empty then none else some 1
  | seq p q => do pure ((← p.leastLength?) + (← q.leastLength?))
  | either p q => do pure (min (← p.leastLength?) (← q.leastLength?))
  | perhaps _ p | anyTimes _ p => p.leastLength?.map fun _ => 0
  | atLeastOnce _ p | group _ p => p.leastLength?

/-- Whether a pattern takes a character in any case. -/
def takesAlways (p : Pattern) : Bool := p.leastLength?.any (0 < ·)

/-- Whether a pattern never takes a character. -/
def takesNever : Pattern → Bool
  | empty | look _ => true
  | one _ => false
  | seq p q | either p q => p.takesNever && q.takesNever
  | perhaps _ p | anyTimes _ p | atLeastOnce _ p | group _ p => p.takesNever

end Pattern

end ComponentBrowser
