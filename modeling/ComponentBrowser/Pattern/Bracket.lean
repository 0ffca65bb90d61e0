import ComponentBrowser.Loop
import ComponentBrowser.Pattern.Atom

/-!
# ComponentBrowser.Pattern.Bracket

Sets of characters in square brackets.  Brackets may hold characters, ranges,
named sets and further brackets; `&&`, `--` and `~~` intersect, subtract and
tell apart what stands before and behind them, from left to right.

Where cases are not told apart and characters are those of Unicode, a bracket
cannot have characters of its own, since it is not known which have a
counterpart.  Where characters are those of ASCII, it cannot be negated, since
the others are not of ASCII alone.
-/

namespace ComponentBrowser.Pattern

/-- A set of characters, and how deep its text is nested. -/
structure NestedSet where
  set : CodePoints
  depth : Nat := 0

namespace NestedSet

/-- The union of sets that stand one after another, the last one first. -/
def ofItems : List NestedSet → NestedSet
  | [] => ⟨.empty, 0⟩
  | [s] => s
  | items => ⟨.unions (items.map (·.set)), (items.map (·.depth)).foldl max 0 + 1⟩

/-- What can stand between two sets. -/
inductive Operator where
  | inter
  | minus
  | differ
  deriving DecidableEq, Repr

/-- The operator that a doubled character stands for. -/
def Operator.ofChar? (c : Char) : Option Operator :=
  if c = '&' then some .inter else if c = '-' then some .minus
  else if c = '~' then some .differ else none

/-- A set with the counterparts of the other case, if these are wanted. -/
def folded (o : Options) (s : CodePoints) : CodePoints := if o.anyCase then s.bothCases else s

/-- Two sets with an operator between them. -/
def combine (o : Options) (op : Operator) (a b : NestedSet) : NestedSet :=
  let left := folded o a.set
  let right := folded o b.set
  let set := match op with
    | .inter => CodePoints.inter left right
    | .minus => CodePoints.minus left right
    | .differ => CodePoints.differ left right
  ⟨set, max a.depth b.depth + 1⟩

end NestedSet

namespace Bracket

/-- What an open bracket still waits with. -/
inductive Frame where
  /-- What stands before a bracket in the one around it, the last item first. -/
  | opened (before : List NestedSet) (isNegated : Bool)
  /-- What stands before an operator. -/
  | operation (op : NestedSet.Operator) (left : NestedSet)

/-- What is known after some characters. -/
structure Reader where
  /-- The items of the bracket since its last operator, the last one first. -/
  items : List NestedSet
  /-- The frames, the innermost first. -/
  frames : List Frame
  rest : List Char

/-! ## items -/

/-- An end of a range, or a character alone. -/
def endOfRange? (o : Options) : Atom → Option Char
  | .char c _ =>
    if o.unicode then if o.anyCase then none else some c
    else if c.toNat < 0x80 then some c else none
  | _ => none

/-- The characters from one to another. -/
def range? (o : Options) (low high : Atom) : Option NestedSet := do
  let low ← endOfRange? o low
  let high ← endOfRange? o high
  if low ≤ high then some ⟨.range low high, 0⟩ else none

/-- A named set within a bracket. -/
def named? (o : Options) (s : CodePoints) (isNegated : Bool) : Option NestedSet :=
  if o.unicode then
    if o.anyCase then none else some ⟨if isNegated then .others s else s, 0⟩
  else if isNegated then none else some ⟨NestedSet.folded o s, 0⟩

/-- What a backslash stands for within a bracket. -/
def item? (o : Options) : Atom → Option NestedSet
  | .char c isByte => range? o (.char c isByte) (.char c isByte)
  | .named s isNegated => if o.unicode then none else named? o s isNegated
  | .look _ => none

/-- Read a character or what a backslash stands for. -/
def atom? (o : Options) : List Char → Option (Atom × List Char)
  | [] => none
  | c :: rest => if c = '\\' then Atom.read? o rest else some (.char c false, rest)

/-- The text behind what is passed over, which may not be all. -/
def skipTo? (o : Options) (cs : List Char) : Option (List Char) :=
  let rest := o.skip cs
  if rest = [] then none else some rest

/-- Read a character or a range.  A dash before a closing bracket or another
dash makes no range. -/
def readItem? (o : Options) (cs : List Char) : Option (NestedSet × List Char) := do
  let (low, rest) ← atom? o cs
  let rest ← skipTo? o rest
  let behind := rest.drop 1
  if rest.head? ≠ some '-' ∨ o.peek? behind = some ']' ∨ o.peek? behind = some '-' then
    pure (← item? o low, rest)
  else
    let (high, rest) ← atom? o (← skipTo? o behind)
    pure (← range? o low high, rest)

/-- Read a named set behind an opening bracket: `:` and its name, `:` and `]`,
and a caret before the name if its characters are left out. -/
def readNamed? (cs : List Char) : Option (CodePoints × Bool × List Char) :=
  match cs with
  | ':' :: rest =>
    let isNegated := rest.head? == some '^'
    let rest := if isNegated then rest.drop 1 else rest
    match rest.dropWhile (· != ':') with
    | ':' :: ']' :: behind =>
      (CodePoints.ofName? (String.ofList (rest.takeWhile (· != ':')))).map (·, isNegated, behind)
    | _ => none
  | _ => none

/-! ## brackets -/

/-- A character that stands for itself, and the text behind what is passed over
after it. -/
def openingChar? (o : Options) (c : Char) (items : List NestedSet) (rest : List Char) :
    Option (List NestedSet × List Char) := do
  pure ((← item? o (.char c false)) :: items, ← skipTo? o rest)

/-- Read a dash at the beginning of a bracket, if one stands there. -/
def dashRound (o : Options) (state : List NestedSet × List Char) :
    Round (List NestedSet × List Char) (Option (List NestedSet × List Char)) :=
  if state.2.head? = some '-' then .ofOption (openingChar? o '-' state.1 (state.2.drop 1))
  else .done (some state)

/-- Read dashes at the beginning of a bracket, which stand for themselves. -/
def openingDashes? (o : Options) (cs : List Char) : Option (List NestedSet × List Char) :=
  (loop? (dashRound o) (cs.length + 1) ([], cs)).join

/-- Read the caret of a bracket whose characters are left out, if one stands there. -/
def caret? (o : Options) (cs : List Char) : Option (Bool × List Char) :=
  if cs.head? = some '^' then (skipTo? o (cs.drop 1)).map (true, ·) else some (false, cs)

/-- Read a closing bracket at the very beginning of a bracket, which stands for itself. -/
def openingBracket? (o : Options) (items : List NestedSet) (cs : List Char) :
    Option (List NestedSet × List Char) :=
  if items.isEmpty ∧ cs.head? = some ']' then openingChar? o ']' items (cs.drop 1)
  else some (items, cs)

/-- Open a bracket. -/
def open? (o : Options) (r : Reader) (rest : List Char) : Option Reader := do
  let (isNegated, rest) ← caret? o (← skipTo? o rest)
  let (items, rest) ← openingDashes? o rest
  let (items, rest) ← openingBracket? o items rest
  pure ⟨items, .opened r.items isNegated :: r.frames, rest⟩

/-- The set since the bracket was opened, with the frames around it. -/
def settled (o : Options) (r : Reader) : NestedSet × List Frame :=
  let right := NestedSet.ofItems r.items
  match r.frames with
  | .operation op left :: frames => (NestedSet.combine o op left right, frames)
  | frames => (right, frames)

/-- A bracket around a set. -/
def closed? (o : Options) (s : NestedSet) (isNegated : Bool) : Option NestedSet :=
  if !isNegated then some ⟨if o.unicode then s.set else NestedSet.folded o s.set, s.depth + 1⟩
  else if o.unicode then some ⟨.others s.set, s.depth + 1⟩
  else none

/-- Close the innermost bracket. -/
def close? (o : Options) (r : Reader) (rest : List Char) : Option Reader := do
  match settled o r with
  | (s, .opened before isNegated :: frames) =>
    pure ⟨(← closed? o s isNegated) :: before, frames, rest⟩
  | _ => none

/-- Put an operator behind what has been read. -/
def operate (o : Options) (r : Reader) (op : NestedSet.Operator) (rest : List Char) : Reader :=
  let (left, frames) := settled o r
  ⟨[], .operation op left :: frames, rest⟩

/-- The operator that a text begins with. -/
def operator? : List Char → Option NestedSet.Operator
  | c :: d :: _ => if c = d then NestedSet.Operator.ofChar? c else none
  | _ => none

/-- Read on by one item, bracket or operator. -/
def step? (o : Options) (r : Reader) : Option Reader := do
  let cs := o.skip r.rest
  match cs, operator? cs with
  | _, some op => pure (operate o r op (cs.drop 2))
  | '[' :: rest, none =>
    match readNamed? rest with
    | some (s, isNegated, behind) =>
      pure { r with items := (← named? o s isNegated) :: r.items, rest := behind }
    | none => open? o r rest
  | ']' :: rest, none => close? o r rest
  | _, none =>
    let (item, rest) ← readItem? o cs
    pure { r with items := item :: r.items, rest }

/-- Read on, unless the outermost bracket is closed. -/
def round (o : Options) (r : Reader) : Round Reader (Option (NestedSet × List Char)) :=
  match r.frames, r.items with
  | [], [s] => .done (some (s, r.rest))
  | _, _ => .ofOption (step? o r)

/-- Read on until the outermost bracket is closed.  Each step takes a character. -/
def finish? (o : Options) (r : Reader) : Option (NestedSet × List Char) :=
  (loop? (round o) (r.rest.length + 1) r).join

/-- Read a bracket from behind its opening. -/
def read? (o : Options) (rest : List Char) : Option (NestedSet × List Char) :=
  (open? o ⟨[], [], []⟩ rest).bind (finish? o)

end Bracket

end ComponentBrowser.Pattern
