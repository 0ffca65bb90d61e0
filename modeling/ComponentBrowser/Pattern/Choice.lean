import ComponentBrowser.Pattern.Basic

/-!
# ComponentBrowser.Pattern.Choice

Patterns put together from alternatives and repetitions, in their simplest form.

Alternatives for one character each are one set.  Alternatives that are longer
and begin alike share their beginning, so that it is decided first how far the
beginning goes: `.*a|.*b` is `.*[ab]`.  What takes no character is not repeated.
-/

namespace ComponentBrowser.Pattern

/-- The elements that two lists have in common at their start. -/
def commonStart : List Pattern → List Pattern → List Pattern
  | p :: ps, q :: qs => if p = q then p :: commonStart ps qs else []
  | _, _ => []

/-- Whether elements are more than one and not all certain characters. -/
def isComposed (elements : List Pattern) : Bool :=
  1 < elements.length && !elements.all isLiteral

/-- One of some patterns, with their common beginnings taken out `limit` times at
most. -/
def shared : Nat → List Pattern → Pattern
  | 0, ps => oneOf ps
  | limit + 1, ps =>
    let ps := ps.flatMap branches
    match ps.mapM set?, ps.map elements with
    | some sets, _ => one (.unions sets)
    | none, first :: rest =>
      let start := rest.foldl commonStart first
      if rest = [] ∨ start = [] ∨ !(first :: rest).all isComposed then oneOf ps
      else
        let ends := (first :: rest).map fun part => join (part.drop start.length)
        sequence (start ++ [shared limit ends])
    | none, [] => oneOf ps

/-- One of some patterns, rather the earlier ones.  Each beginning that is taken
out leaves fewer parts. -/
def choice (ps : List Pattern) : Pattern :=
  match ps with
  | [p] => p
  | _ => shared ((ps.map size).foldl (· + ·) 0) ps

/-- A pattern any number of times. -/
def repeatedly (greedy : Bool) (p : Pattern) : Pattern :=
  if p.takesNever then perhaps greedy p else anyTimes greedy p

/-- A pattern at least once. -/
def repeatedlyAtLeastOnce (greedy : Bool) (p : Pattern) : Pattern :=
  if p.takesNever then p else atLeastOnce greedy p

end ComponentBrowser.Pattern
