import ComponentBrowser.Text.Binary64

/-!
# ComponentBrowser.Text.Similarity

How similar two texts are, by the measure of Jaro: the mean of the shares of
their characters that match and of the matching ones that stand in order.
Characters match when they are equal and not too far from each other; each
matches once.  The mean is taken in binary floating point, rounding after each
step.
-/

namespace ComponentBrowser.Text

/-- How far matching characters may stand from each other. -/
def matchWindow (a b : List Char) : Nat := max a.length b.length / 2 - 1

/-- Mark the first free character that equals `c` between two positions, in a
text that begins at position `i`. -/
def markMatch? (c : Char) (low high i : Nat) : List (Char × Bool) → Option (List (Char × Bool))
  | [] => none
  | (d, isTaken) :: rest =>
    if low ≤ i && i ≤ high && !isTaken && d == c then some ((d, true) :: rest)
    else (markMatch? c low high (i + 1) rest).map ((d, isTaken) :: ·)

/-- The characters of a text that begins at position `i` which match in another
one, and that other one with the matches marked. -/
def matching (window i : Nat) : List Char → List (Char × Bool) → List Char × List (Char × Bool)
  | [], other => ([], other)
  | c :: rest, other =>
    match markMatch? c (i - window) (i + window) 0 other with
    | some marked =>
      let (matched, other) := matching window (i + 1) rest marked
      (c :: matched, other)
    | none => matching window (i + 1) rest other

/-- The similarity of two texts, between zero and one. -/
def similarity (a b : List Char) : Binary64 :=
  let (matched, marked) := matching (matchWindow a b) 0 a (b.map fun c => (c, false))
  let counterparts := (marked.filter (·.2)).map (·.1)
  let swapped := ((matched.zip counterparts).filter fun (c, d) => c != d).length / 2
  let share := fun (n m : Nat) => Binary64.ofRatio ⟨n, m⟩
  let count := matched.length
  if count = 0 then share 0 1
  else
    (((share count a.length).add (share count b.length)).add (share (count - swapped) count)).div
      (Binary64.ofNat 3)

end ComponentBrowser.Text
