/-!
# ComponentBrowser.Text.CodePoints

Sets of code points, given by their boundaries: an ascending list of the code
points at which membership changes, starting from "not a member".  A code
point is a member when an odd number of boundaries lie at or below it.

Sets are put together by `combine`, whose result has no boundary too many, so
sets of the same members are equal.
-/

namespace ComponentBrowser

/-- A set of code points, as the ascending list of its boundaries. -/
structure CodePoints where
  boundaries : List Nat
  deriving DecidableEq, Repr

namespace CodePoints

/-- Membership, from the number of boundaries at or below the code point. -/
def contains (s : CodePoints) (n : Nat) : Bool :=
  (s.boundaries.takeWhile (· ≤ n)).length % 2 == 1

/-- Whether a character belongs to the set. -/
def has (s : CodePoints) (c : Char) : Bool := s.contains c.toNat

/-! ## making sets -/

/-- The set without members. -/
def empty : CodePoints := ⟨[]⟩

/-- The set of all code points. -/
def all : CodePoints := ⟨[0]⟩

/-- The characters from one to another that is no smaller. -/
def range (low high : Char) : CodePoints := ⟨[low.toNat, high.toNat + 1]⟩

/-- The set of one character. -/
def single (c : Char) : CodePoints := range c c

/-- Those of ascending code points at which membership changes. -/
def changes (member : Nat → Bool) (isIn : Bool) : List Nat → List Nat
  | [] => []
  | n :: rest =>
    if member n = isIn then changes member isIn rest else n :: changes member (!isIn) rest

/-- The set whose members are told by their membership in two others.  It changes
only where one of them does. -/
def combine (op : Bool → Bool → Bool) (a b : CodePoints) : CodePoints :=
  ⟨changes (fun n => op (a.contains n) (b.contains n)) false
    (0 :: a.boundaries.merge b.boundaries)⟩

/-- What is in one of two sets. -/
def union : CodePoints → CodePoints → CodePoints := combine (· || ·)

/-- What is in both of two sets. -/
def inter : CodePoints → CodePoints → CodePoints := combine (· && ·)

/-- What is in the first of two sets alone. -/
def minus : CodePoints → CodePoints → CodePoints := combine fun x y => x && !y

/-- What is in one of two sets but not in both. -/
def differ : CodePoints → CodePoints → CodePoints := combine (· != ·)

/-- What is not in a set. -/
def others (s : CodePoints) : CodePoints := minus all s

/-- What is in any of some sets. -/
def unions (sets : List CodePoints) : CodePoints := sets.foldr union empty

end CodePoints

end ComponentBrowser
