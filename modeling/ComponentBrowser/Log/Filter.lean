import ComponentBrowser.Log.Event
import ComponentBrowser.Log.FieldMatch
import ComponentBrowser.Text.Alphanumeric
import ComponentBrowser.Text.Blank
import ComponentBrowser.Text.Utf8

/-!
# ComponentBrowser.Log.Filter

Log filters: comma-separated directives, each of the form

```
target[span{field=value}]=level
```

with every part optional; the value is mostly a pattern.  `Filter.parse` reads a
filter, `Filter.admits` decides which events it lets through and `Filter.opens`
whether a span is shown.  A directive without span and field values is *static*: the most
specific static directive that concerns an event decides about it.  One with
a span or fields is *dynamic*: it raises the level of everything that happens
inside the spans that it concerns.

The parts of a directive are found in its text without the white space around it
and cut, at the same places, out of its whole text.  White space in front moves
these places, by bytes; where one of them comes to lie within a character there
is nothing to cut, and the reader breaks down.
-/

namespace ComponentBrowser.Log

/-! ## levels as limits -/

/-- The least serious level that a directive lets through, if any. -/
inductive Limit where
  | off
  | upTo (level : Level)
  deriving DecidableEq, Repr

namespace Limit

/-- The place of a limit in the order from quiet to detailed. -/
def rank : Limit → Nat
  | off => 0
  | upTo level => level.rank

/-- Whether a limit lets a level through. -/
def admits (limit : Limit) (level : Level) : Bool := level.rank ≤ limit.rank

/-- The limit with a given place in the order. -/
def ofRank? : Nat → Option Limit
  | 0 => some off
  | 1 => some (upTo .error)
  | 2 => some (upTo .warn)
  | 3 => some (upTo .info)
  | 4 => some (upTo .debug)
  | 5 => some (upTo .trace)
  | _ => none

/-- The limit with a given name, in any mixture of cases. -/
def ofName? (cs : List Char) : Option Limit :=
  let name := String.ofList (cs.map Char.toLower)
  if name = "off" then some off
  else if name = "error" then some (upTo .error)
  else if name = "warn" then some (upTo .warn)
  else if name = "info" then some (upTo .info)
  else if name = "debug" then some (upTo .debug)
  else if name = "trace" then some (upTo .trace)
  else none

/-- A limit is written as a name or as its place from 0 to 5, which may carry
a plus sign and leading zeros. -/
def parse? (cs : List Char) : Option Limit :=
  let digits := if cs.head? = some '+' then cs.drop 1 else cs
  if digits ≠ [] ∧ digits.all Decimal.isDigit then ofRank? (Decimal.value digits)
  else ofName? cs

end Limit

/-! ## directives -/

/-- One directive of a filter. -/
structure Directive where
  /-- What the reporting part's name has to start with. -/
  target? : Option String
  /-- The name of the span that the directive is about. -/
  span? : Option String
  fields : List FieldMatch
  limit : Limit
  deriving DecidableEq

/-- Why a filter cannot be read. -/
inductive FilterFault where
  /-- A directive does not have the form of one. -/
  | malformed
  /-- What stands for a level is none. -/
  | unknownLevel
  /-- What a field is asked to hold cannot be read. -/
  | badField (cause : Pattern.Fault)
  deriving DecidableEq

/-- The description of a fault in a filter. -/
def FilterFault.message : FilterFault → String
  | .malformed => "invalid filter directive"
  | .unknownLevel =>
    "error parsing level filter: expected one of \"off\", \"error\", \"warn\", \"info\", " ++
      "\"debug\", \"trace\", or a number 0-5"
  | .badField cause => "invalid field filter: " ++ cause.message

/-- What ends the reading of a filter early. -/
inductive Halt (ε : Type) where
  /-- A fault, which is reported. -/
  | fault (cause : ε)
  /-- A cut within a character: the program breaks down. -/
  | crash
  deriving DecidableEq

/-- The same halt, with the fault told in another way. -/
def Halt.map {ε ε' : Type} (tell : ε → ε') : Halt ε → Halt ε'
  | .fault cause => .fault (tell cause)
  | .crash => .crash

namespace Directive

/-- Which part of a directive is being read, with the place where it began. -/
inductive Part where
  | start
  | levelOrTarget (since : Nat)
  | span (since : Nat)
  | field (since : Nat)
  | afterFields
  | afterSpan
  | level (since : Nat)

/-- The directive before anything of it is read: everything, at every level. -/
def unrestricted : Directive := ⟨none, none, [], .upTo .trace⟩

/-- Whether a target or a level may begin with a character. -/
def opensName (c : Char) : Bool :=
  c == '-' || c == ':' || c == '_' || Text.isAlphanumeric c

/-- A reading of a directive, or what ends it early. -/
abbrev Read := Except (Halt FilterFault)

/-- End the reading with a fault. -/
def refuse {α : Type} (cause : FilterFault) : Read α := .error (.fault cause)

/-- What has been cut out; nothing to cut breaks the reading down. -/
def orCrash {α : Type} : Option α → Read α
  | some x => .ok x
  | none => .error .crash

/-- The text behind a place. -/
def behind (whole : List Char) (since : Nat) : Read (List Char) := orCrash (Utf8.drop? since whole)

/-- The text between two places. -/
def cut (whole : List Char) (since upTo : Nat) : Read (List Char) := do
  orCrash (Utf8.take? (upTo - since) (← behind whole since))

/-- The limit behind the equals sign; with nothing there, every level. -/
def limitOf (cs : List Char) : Read Limit :=
  if cs = [] then .ok (.upTo .trace)
  else match Limit.parse? cs with
    | some limit => .ok limit
    | none => refuse .unknownLevel

/-- A lone name is a level if it can be one and else a target. -/
def ofName (d : Directive) (cs : List Char) : Directive :=
  match Limit.parse? cs with
  | some limit => { d with limit := limit, target? := none }
  | none => { d with limit := .upTo .trace, target? := some (String.ofList cs) }

/-- Complete a directive at its end. -/
def finish (whole : List Char) (d : Directive) : Part → Read Directive
  | .levelOrTarget since => (behind whole since).map d.ofName
  | .level since => do pure { d with limit := ← limitOf (← behind whole since) }
  | .afterSpan => .ok d
  | _ => refuse .malformed

/-- With the target between two places. -/
def withTarget (d : Directive) (whole : List Char) (since upTo : Nat) : Read Directive := do
  pure { d with target? := some (String.ofList (← cut whole since upTo)) }

/-- With the name of a span between two places, which may be missing before
fields. -/
def withSpan (d : Directive) (whole : List Char) (since upTo : Nat) (mayMiss : Bool) :
    Read Directive := do
  let name := String.ofList (← cut whole since upTo)
  pure { d with span? := if mayMiss ∧ name = "" then none else some name }

/-- With one more field, between two places. -/
def withField (d : Directive) (whole : List Char) (since upTo : Nat) : Read Directive := do
  let cs ← cut whole since upTo
  if cs = [] then refuse .malformed
  else
    let field ← (FieldMatch.parse cs).mapError fun cause => .fault (.badField cause)
    pure { d with fields := d.fields ++ [field] }

/-- Read the character at place `i`. -/
def step (whole : List Char) (d : Directive) (part : Part) (i : Nat) (c : Char) :
    Read (Directive × Part) :=
  match part with
  | .start =>
    if c = '[' then .ok (d, .span (i + 1))
    else if opensName c then .ok (d, .levelOrTarget i)
    else refuse .malformed
  | .levelOrTarget since =>
    if c = '=' then (d.withTarget whole since i).map (·, .level (i + 1))
    else if c = '[' then (d.withTarget whole since i).map (·, .span (i + 1))
    else .ok (d, part)
  | .span since =>
    if c = ']' then (d.withSpan whole since i false).map (·, .afterSpan)
    else if c = '\x7b' then (d.withSpan whole since i true).map (·, .field (i + 1))
    else .ok (d, part)
  | .field since =>
    if c = '\x7d' then (d.withField whole since i).map (·, .afterFields) else .ok (d, part)
  | .afterFields => if c = ']' then .ok (d, .afterSpan) else refuse .malformed
  | .afterSpan => if c = '=' then .ok (d, .level (i + 1)) else refuse .malformed
  | .level _ => .ok (d, part)

/-- Read the rest of a directive from place `i` on.  Places count bytes, and the
parts are cut out of `whole`. -/
def scan (whole : List Char) (d : Directive) (part : Part) (i : Nat) :
    List Char → Read Directive
  | [] => finish whole d part
  | c :: rest => do
    let (d, part) ← step whole d part i c
    scan whole d part (i + c.utf8Size) rest

/-- Read a directive.  White space around it is passed over when its parts are
looked for, and still counts when they are cut out. -/
def parse (cs : List Char) : Read Directive := scan cs unrestricted .start 0 (Text.trim cs)

/-- A directive that decides about single events. -/
def isStatic (d : Directive) : Bool := d.span?.isNone && d.fields.all (·.value?.isNone)

/-- A directive that concerns spans and what happens inside them. -/
def isDynamic (d : Directive) : Bool := d.span?.isSome || !d.fields.isEmpty

/-- Whether two directives are about the same things. -/
def sameScope (d e : Directive) : Bool :=
  d.target? == e.target? && d.span? == e.span? && d.fields == e.fields

/-- Whether a target begins as the directive asks. -/
def matchesTarget (d : Directive) (target : String) : Bool :=
  match d.target? with
  | none => true
  | some start => start.toList.isPrefixOf target.toList

/-- Whether a static directive concerns an event: it has to hold the fields
that the directive names. -/
def concernsEvent (d : Directive) (e : Event) : Bool :=
  d.matchesTarget e.target &&
    d.fields.all fun f => f.name == "message" || f.isNamedIn e.fields

/-- Whether a dynamic directive concerns a span. -/
def concernsSpan (d : Directive) (s : Span) : Bool :=
  d.matchesTarget s.target && (d.span?.isNone || d.span? == some s.name) &&
    d.fields.all (·.isNamedIn s.fields)

/-- Whether the span holds what the directive asks for. -/
def matchesValues (d : Directive) (s : Span) : Bool := d.fields.all (·.isHeldIn s.fields)

/-- Whether the names of `e` stand after those of `d` in the order of their texts. -/
def namesBefore : List String → List String → Bool
  | _, [] => false
  | [], _ :: _ => true
  | x :: xs, y :: ys => x < y || (x == y && namesBefore xs ys)

/-- Whether `e` is at least as specific as `d`: by the length of its target,
then by how many fields it names, then by the order of the names. -/
def atMostAsSpecificAs (d e : Directive) : Bool :=
  let width := fun (x : Directive) => (x.target?.map (·.utf8ByteSize + 1)).getD 0
  let names := fun (x : Directive) => x.fields.map (·.name)
  if width d ≠ width e then width d < width e
  else if d.fields.length ≠ e.fields.length then d.fields.length < e.fields.length
  else !namesBefore (names e) (names d)

end Directive

/-! ## filters -/

/-- A log filter: its directives in the order of writing. -/
structure Filter where
  directives : List Directive
  deriving DecidableEq

namespace Filter

/-- The pieces of a text between its commas. -/
def split (cs : List Char) : List (List Char) :=
  cs.foldr (fun c pieces =>
    if c = ',' then [] :: pieces
    else match pieces with
      | [] => [[c]]
      | piece :: pieces => (c :: piece) :: pieces) [[]]

/-- Read a filter.  Empty directives are passed over. -/
def parse (s : String) : Except (Halt FilterFault) Filter :=
  (((split s.toList).filter (· ≠ [])).mapM Directive.parse).map Filter.mk

/-- The static directives; a filter without any directive still lets errors
through. -/
def statics (f : Filter) : List Directive :=
  if f.directives = [] then [⟨none, none, [], .upTo .error⟩]
  else f.directives.filter Directive.isStatic

/-- The dynamic directives.  Of several about the same things the last counts. -/
def dynamics (f : Filter) : List Directive :=
  (f.directives.filter Directive.isDynamic).foldl
    (fun kept d => kept.filter (fun e => !d.sameScope e) ++ [d]) []

/-- The most specific of the directives that satisfy a condition; of equals the
last. -/
def decisive? (ds : List Directive) (concerns : Directive → Bool) : Option Directive :=
  (ds.filter concerns).foldl (fun best d =>
    match best with
    | none => some d
    | some b => if b.atMostAsSpecificAs d then some d else some b) none

/-- The most detailed level that any directive could let through. -/
def reach (f : Filter) : Nat :=
  if f.directives.any (fun d => d.isDynamic && d.fields.any (·.value?.isSome)) then 5
  else ((f.statics ++ f.directives).map (·.limit.rank)).foldl max 0

/-- Whether the static directives let through what satisfies their conditions. -/
def staticallyAdmits (f : Filter) (level : Level) (concerns : Directive → Bool) : Bool :=
  match decisive? f.statics concerns with
  | some d => d.limit.admits level
  | none => false

/-- Whether a span is shown. -/
def opens (f : Filter) (s : Span) : Bool :=
  s.level.rank ≤ f.reach &&
    (f.dynamics.any (·.concernsSpan s) ||
      f.staticallyAdmits s.level (·.matchesTarget s.target))

/-- The level up to which a span lets everything inside it through. -/
def spanReach (f : Filter) (s : Span) : Nat :=
  if f.opens s then
    ((f.dynamics.filter fun d => d.concernsSpan s && d.matchesValues s).map
      (·.limit.rank)).foldl max 0
  else 0

/-- Whether an event is let through, in the span it stands in. -/
def admits (f : Filter) (span? : Option Span) (e : Event) : Bool :=
  e.level.rank ≤ f.reach &&
    (f.staticallyAdmits e.level (·.concernsEvent e) ||
      match span? with
      | some s => e.level.rank ≤ f.spanReach s
      | none => false)

/-- The lines that a filter lets through of events in one span. -/
def lines (f : Filter) (span? : Option Span) (events : List Event) : List String :=
  (events.filter (f.admits span?)).map (·.line (span?.filter f.opens))

end Filter

end ComponentBrowser.Log
