import ComponentBrowser.Loop
import ComponentBrowser.Pattern.Basic

/-!
# ComponentBrowser.Pattern.Program

Patterns as programs, and the texts that they fit.

A program is followed along all its ways at once, the preferred ones first.  Each
place in it is followed up once before the next character, and where a way has
come to its end the ways behind it are given up.  So a pattern *fits* a text when,
looked for from any place on, a way that is left at the end of the text is at its
end there: `p|prompt` does not fit "prompt", for the `p` has been found and
everything else given up, while `prompt|p` does.
-/

namespace ComponentBrowser.Pattern

/-- A step of a program, with the places to go on from. -/
inductive Step where
  | done
  | take (s : CodePoints) (next : Nat)
  | look (l : Look) (next : Nat)
  | jump (next : Nat)
  /-- Two ways to go on, the preferred one first. -/
  | fork (first second : Nat)
  deriving DecidableEq, Repr

/-! ## programs -/

/-- How many steps the program of a pattern has. -/
def width : Pattern → Nat
  | empty | look _ | one _ => 1
  | seq p q => p.width + q.width
  | either p q => p.width + q.width + 1
  | perhaps _ p | atLeastOnce _ p => p.width + 1
  | anyTimes _ p => p.width + if p.takesAlways then 1 else 2
  | group _ p => p.width

/-- A way into a repeated part and a way past it; rather into it if greedy. -/
def Step.into (greedy : Bool) (part past : Nat) : Step :=
  if greedy then fork part past else fork past part

/-- The steps of a pattern from place `i` on, which go on from place `next`.  What
may take no character is repeated only once that has been done once. -/
def steps (i next : Nat) : Pattern → List Step
  | empty => [.jump next]
  | look l => [.look l next]
  | one s => [.take s next]
  | seq p q => p.steps i (i + p.width) ++ q.steps (i + p.width) next
  | either p q =>
    let second := i + 1 + p.width
    .fork (i + 1) second :: (p.steps (i + 1) next ++ q.steps second next)
  | perhaps greedy p => .into greedy (i + 1) next :: p.steps (i + 1) next
  | anyTimes greedy p =>
    if p.takesAlways then .into greedy (i + 1) next :: p.steps (i + 1) i
    else
      .into greedy (i + 1) next ::
        (p.steps (i + 1) (i + 1 + p.width) ++ [.into greedy (i + 1) next])
  | atLeastOnce greedy p => p.steps i (i + p.width) ++ [.into greedy i next]
  | group _ p => p.steps i next

/-- A pattern looked for from any place on, rather from an earlier one. -/
def anywhere (p : Pattern) : Pattern := seq (anyTimes false (one .all)) p

/-- A program: steps, of which the first is the one to begin with. -/
abbrev Program := Array Step

/-- The program that looks for a pattern. -/
def program (p : Pattern) : Program :=
  (p.anywhere.steps 0 p.anywhere.width ++ [Step.done]).toArray

namespace Program

/-! ## places -/

/-- The places that a step leads to without a character. -/
def silent (holds : Look → Bool) : Step → List Nat
  | .done | .take _ _ => []
  | .look l next => if holds l then [next] else []
  | .jump next => [next]
  | .fork first second => [first, second]

/-- The places that have been followed up, the last one first, and those that are
still to be followed up. -/
structure Trail where
  seen : List Nat
  rest : List Nat

/-- Follow the next place up, unless that has been done. -/
def round (g : Program) (holds : Look → Bool) (t : Trail) : Round Trail (List Nat) :=
  match t.rest with
  | [] => .done t.seen
  | i :: rest =>
    if t.seen.contains i then .again ⟨t.seen, rest⟩
    else .again ⟨i :: t.seen, (g[i]?.map (silent holds)).getD [] ++ rest⟩

/-- Follow places up as far as that goes without a character.  Each step is
followed up once and leads to two places at most. -/
def follow (g : Program) (holds : Look → Bool) (places : List Nat) : List Nat :=
  (loop? (g.round holds) (2 * g.size + places.length + 1) ⟨[], places⟩).getD []

/-- Whether something waits at a place: a character, a look or the end. -/
def isWaiting (g : Program) (i : Nat) : Bool :=
  match g[i]? with
  | some (.jump _) | some (.fork _ _) | none => false
  | _ => true

/-- The waiting places that others lead to, the preferred ones first. -/
def reach (g : Program) (holds : Look → Bool) (places : List Nat) : List Nat :=
  (g.follow holds places).reverse.filter g.isWaiting

/-- Whether a look waits at a place that the next character has satisfied. -/
def isOpened (g : Program) (before? after? : Option Char) (i : Nat) : Bool :=
  match g[i]? with
  | some (.look l _) => l.holds before? after? && !l.holdsAfter before?
  | _ => false

/-- The waiting places once the next character is known. -/
def settle (g : Program) (before? after? : Option Char) (places : List Nat) : List Nat :=
  if places.any (g.isOpened before? after?) then g.reach (·.holds before? after?) places
  else places

/-- The places behind a character.  Those behind one at its end are given up. -/
def behind (g : Program) (c : Char) : List Nat → List Nat
  | [] => []
  | i :: rest =>
    match g[i]? with
    | some .done => []
    | some (.take s next) => if s.has c then next :: behind g c rest else behind g c rest
    | _ => behind g c rest

/-- Whether one of the waiting places is at its end with a text. -/
def endsWith (g : Program) (before? : Option Char) (places : List Nat) : List Char → Bool
  | [] => (g.settle before? none places).any fun i => g[i]? == some .done
  | c :: rest =>
    let next := g.behind c (g.settle before? (some c) places)
    endsWith g (some c) (g.reach (·.holdsAfter (some c)) next) rest

end Program

/-! ## fitting -/

/-- Whether a pattern fits a text. -/
def fits (p : Pattern) (text : String) : Bool :=
  let g := p.program
  g.endsWith none (g.reach (·.holdsAfter none) [0]) text.toList

end ComponentBrowser.Pattern
