import ComponentBrowser.Loop
import ComponentBrowser.Yaml.Source
import ComponentBrowser.Yaml.Token

/-!
# ComponentBrowser.Yaml.Event

The structure of a YAML stream as events: where nodes begin and end.  The
events are derived from the tokens with a stack of `Goal`s, each a piece of
structure that is still to come.

* `Event.ofTokens` gives the events of the only document of a stream, or none
  if the stream holds no document.
-/

namespace ComponentBrowser.Yaml

/-- A scalar. -/
structure Scalar where
  text : String
  style : Style
  /-- Its tag, if it has one, with the handle replaced. -/
  tag? : Option Bytes
  deriving DecidableEq

/-- An event.  Nodes carry their anchors. -/
inductive Event where
  | scalar (anchor? : Option String) (s : Scalar)
  | alias (name : String)
  | sequenceStart (anchor? : Option String)
  | sequenceEnd
  | mappingStart (anchor? : Option String)
  | mappingEnd
  deriving DecidableEq

/-- A piece of structure that is still to come. -/
inductive Goal where
  /-- The end of the stream, after marks of the end of the document. -/
  | streamEnd
  /-- What follows the mark of the document's start. -/
  | content
  | blockNode
  /-- The rest of a block sequence. -/
  | blockEntries
  /-- The rest of a block sequence that is not indented. -/
  | plainEntries
  /-- The rest of a block mapping, from a key on. -/
  | blockKey
  | blockValue
  /-- The rest of a sequence in brackets. -/
  | flowEntries (first : Bool)
  /-- A pair that stands alone as an entry of a sequence in brackets. -/
  | pairKey
  | pairValue
  | pairEnd
  /-- The rest of a mapping in brackets, from a key on. -/
  | flowKey (first : Bool)
  | flowValue
  /-- The empty value of a key without a colon. -/
  | flowNoValue

/-- What is known of a stream after some of its tokens. -/
structure Derivation where
  /-- The tokens still to come. -/
  tokens : List Token
  /-- What they have to make up, the next piece first. -/
  goals : List Goal
  /-- The events so far, the last first. -/
  events : List Event
  /-- What the handles of tags stand for. -/
  handles : List (String × Bytes)

namespace Derivation

/-- The handles that need no directive. -/
def standardHandles : List (String × Bytes) :=
  [("!", Bytes.ofText "!"), ("!!", Bytes.ofText "tag:yaml.org,2002:")]

/-- Add an event. -/
def emit (d : Derivation) (e : Event) : Derivation := { d with events := e :: d.events }

/-- Ask for a piece of structure before all others. -/
def want (d : Derivation) (g : Goal) : Derivation := { d with goals := g :: d.goals }

/-- Go on with other tokens. -/
def onTo (d : Derivation) (tokens : List Token) : Derivation := { d with tokens }

/-- A node without content. -/
def emptyNode (d : Derivation) : Derivation := d.emit (.scalar none ⟨"", .plain, none⟩)

/-! ## nodes -/

/-- What stands before the content of a node. -/
structure Properties where
  anchor? : Option String := none
  tag? : Option (String × Bytes) := none

/-- Whether there is an anchor or a tag. -/
def Properties.areGiven (found : Properties) : Bool := found.anchor?.isSome || found.tag?.isSome

/-- Read an anchor and a tag, in either order, each at most once. -/
def properties : List Token → Properties × List Token
  | .anchor name :: .tag handle suffix :: rest => (⟨some name, some (handle, suffix)⟩, rest)
  | .tag handle suffix :: .anchor name :: rest => (⟨some name, some (handle, suffix)⟩, rest)
  | .anchor name :: rest => (⟨some name, none⟩, rest)
  | .tag handle suffix :: rest => (⟨none, some (handle, suffix)⟩, rest)
  | rest => ({}, rest)

/-- The tag that a handle and a suffix stand for. -/
def expand (d : Derivation) : Option (String × Bytes) → Except Fault (Option Bytes)
  | none => .ok none
  | some (handle, suffix) =>
    if handle = "" then .ok (some suffix)
    else match d.handles.lookup handle with
      | some start => .ok (some (start ++ suffix))
      | none => .error (.unknownTagHandle handle)

/-- The tag of a scalar with content: an exclamation mark alone is none. -/
def scalarTag? (tag? : Option Bytes) : Option Bytes :=
  if tag? = some (Bytes.ofText "!") then none else tag?

/-- Read the content of a node with properties.  Without any content, the
properties stand for an empty scalar. -/
def content (d : Derivation) (block entries : Bool) (found : Properties) (tag? : Option Bytes) :
    Except Fault Derivation :=
  let anchor? := found.anchor?
  let missing : Except Fault Derivation :=
    if found.areGiven then .ok (d.emit (.scalar anchor? ⟨"", .plain, tag?⟩))
    else .error .unexpectedToken
  match d.tokens with
  | .blockEntry :: _ =>
    if entries then .ok ((d.emit (.sequenceStart anchor?)).want .plainEntries) else missing
  | .scalar text style :: rest =>
    .ok ((d.onTo rest).emit (.scalar anchor? ⟨text, style, scalarTag? tag?⟩))
  | .flowSequenceStart :: rest =>
    .ok (((d.onTo rest).emit (.sequenceStart anchor?)).want (.flowEntries true))
  | .flowMappingStart :: rest =>
    .ok (((d.onTo rest).emit (.mappingStart anchor?)).want (.flowKey true))
  | .blockSequenceStart :: rest =>
    if block then .ok (((d.onTo rest).emit (.sequenceStart anchor?)).want .blockEntries)
    else missing
  | .blockMappingStart :: rest =>
    if block then .ok (((d.onTo rest).emit (.mappingStart anchor?)).want .blockKey)
    else missing
  | _ => missing

/-- Read a node.  `block` admits block collections, `entries` also a sequence
that is not indented. -/
def node (d : Derivation) (block entries : Bool) : Except Fault Derivation :=
  match d.tokens with
  | .alias name :: rest => .ok ((d.onTo rest).emit (.alias name))
  | tokens => do
    let (found, tokens) := properties tokens
    let tag? ← d.expand found.tag?
    (d.onTo tokens).content block entries found tag?

/-- Read a node, or an empty one if a token stands here that ends it, and then
what is wanted behind it. -/
def nodeUnless (d : Derivation) (ends : Token → Bool) (block entries : Bool) (behind : Goal) :
    Except Fault Derivation :=
  let d := d.want behind
  match d.tokens with
  | t :: _ => if ends t then .ok d.emptyNode else d.node block entries
  | [] => d.node block entries

/-! ## goals -/

/-- Whether a token ends an entry of a block sequence. -/
def endsBlockEntry : Token → Bool
  | .blockEntry | .blockEnd => true
  | _ => false

/-- Whether a token ends an entry of a sequence that is not indented. -/
def endsPlainEntry : Token → Bool
  | .blockEntry | .key | .value | .blockEnd => true
  | _ => false

/-- Whether a token ends a key or value of a block mapping. -/
def endsBlockPart : Token → Bool
  | .key | .value | .blockEnd => true
  | _ => false

/-- Whether a token ends a value of a pair in a sequence in brackets. -/
def endsPairValue : Token → Bool
  | .flowEntry | .flowSequenceEnd => true
  | _ => false

/-- Whether a token ends a key of a mapping in brackets. -/
def endsFlowKey : Token → Bool
  | .value | .flowEntry | .flowMappingEnd => true
  | _ => false

/-- Whether a token ends a value of a mapping in brackets. -/
def endsFlowValue : Token → Bool
  | .flowEntry | .flowMappingEnd => true
  | _ => false

/-- Whether a token ends the content of a document before it begins. -/
def endsContent : Token → Bool
  | .version .. | .tagHandle .. | .documentStart | .documentEnd => true
  | _ => false

/-- The tokens behind the comma between two entries in brackets; the first
entry has none. -/
def afterComma (first : Bool) : List Token → Except Fault (List Token)
  | .flowEntry :: rest => .ok (if first then .flowEntry :: rest else rest)
  | tokens => if first then .ok tokens else .error .unexpectedToken

/-- Read one piece of structure. -/
def reach (d : Derivation) : Goal → Except Fault Derivation
  | .streamEnd =>
    if d.tokens.all (· == .documentEnd) then .ok (d.onTo []) else .error .severalDocuments
  | .content =>
    match d.tokens with
    | [] => .ok d.emptyNode
    | t :: _ => if endsContent t then .ok d.emptyNode else d.node true false
  | .blockNode => d.node true false
  | .blockEntries =>
    match d.tokens with
    | .blockEntry :: rest => (d.onTo rest).nodeUnless endsBlockEntry true false .blockEntries
    | .blockEnd :: rest => .ok ((d.onTo rest).emit .sequenceEnd)
    | _ => .error .unexpectedToken
  | .plainEntries =>
    match d.tokens with
    | .blockEntry :: rest => (d.onTo rest).nodeUnless endsPlainEntry true false .plainEntries
    | _ => .ok (d.emit .sequenceEnd)
  | .blockKey =>
    match d.tokens with
    | .key :: rest => (d.onTo rest).nodeUnless endsBlockPart true true .blockValue
    | .blockEnd :: rest => .ok ((d.onTo rest).emit .mappingEnd)
    | _ => .error .unexpectedToken
  | .blockValue =>
    match d.tokens with
    | .value :: rest => (d.onTo rest).nodeUnless endsBlockPart true true .blockKey
    | _ => .ok (d.want .blockKey).emptyNode
  | .flowEntries first =>
    match d.tokens with
    | .flowSequenceEnd :: rest => .ok ((d.onTo rest).emit .sequenceEnd)
    | tokens => do
      let tokens ← afterComma first tokens
      match tokens with
      | .key :: rest => pure (((d.onTo rest).emit (.mappingStart none)).want .pairKey)
      | .flowSequenceEnd :: rest => pure ((d.onTo rest).emit .sequenceEnd)
      | _ => ((d.onTo tokens).want (.flowEntries false)).node false false
  | .pairKey =>
    match d.tokens with
    | .value :: rest | .flowEntry :: rest | .flowSequenceEnd :: rest =>
      .ok ((d.onTo rest).want .pairValue).emptyNode
    | _ => (d.want .pairValue).node false false
  | .pairValue =>
    match d.tokens with
    | .value :: rest => (d.onTo rest).nodeUnless endsPairValue false false .pairEnd
    | _ => .ok (d.want .pairEnd).emptyNode
  | .pairEnd => .ok ((d.want (.flowEntries false)).emit .mappingEnd)
  | .flowKey first =>
    match d.tokens with
    | .flowMappingEnd :: rest => .ok ((d.onTo rest).emit .mappingEnd)
    | tokens => do
      let tokens ← afterComma first tokens
      match tokens with
      | .key :: rest => (d.onTo rest).nodeUnless endsFlowKey false false .flowValue
      | .flowMappingEnd :: rest => pure ((d.onTo rest).emit .mappingEnd)
      | _ => ((d.onTo tokens).want .flowNoValue).node false false
  | .flowValue =>
    match d.tokens with
    | .value :: rest => (d.onTo rest).nodeUnless endsFlowValue false false (.flowKey false)
    | _ => .ok (d.want (.flowKey false)).emptyNode
  | .flowNoValue => .ok (d.want (.flowKey false)).emptyNode

/-- Read the next piece of what is wanted, if anything is. -/
def round (d : Derivation) : Round Derivation (Except Fault (List Event)) :=
  match d.goals with
  | [] => .done (.ok d.events.reverse)
  | g :: goals => .ofExcept ({ d with goals }.reach g)

/-- How many rounds a goal can take on its own, without any token. -/
def weight : Goal → Nat
  | .blockValue | .pairEnd | .flowValue | .flowNoValue => 2
  | .pairValue => 3
  | _ => 1

/-- How many rounds there can be: each token is worth four. -/
def effort (d : Derivation) : Nat :=
  d.goals.foldr (fun g rounds => weight g + rounds) (4 * d.tokens.length)

/-- Read all that is wanted. -/
def run (d : Derivation) : Except Fault (List Event) :=
  (loop? round (d.effort + 1) d).getD (.error .unexpectedToken)

/-! ## documents -/

/-- Read the directives of a document. -/
def directives (version : Bool) (handles : List (String × Bytes)) :
    List Token → Except Fault (List (String × Bytes) × List Token)
  | .version major minor :: rest =>
    if version then .error .repeatedDirective
    else if major = 1 ∧ (minor = 1 ∨ minor = 2) then directives true handles rest
    else .error .badDirective
  | .tagHandle handle start :: rest =>
    if (handles.lookup handle).isSome then .error .repeatedDirective
    else directives version (handles ++ [(handle, start)]) rest
  | rest => .ok (handles, rest)

/-- Whether a document begins with directives or the mark of its start. -/
def isExplicit : List Token → Bool
  | .version .. :: _ | .tagHandle .. :: _ | .documentStart :: _ => true
  | _ => false

end Derivation

/-- The events of the only document of a stream; none if there is no document. -/
def Event.ofTokens (tokens : List Token) : Except Fault (List Event) := do
  if tokens = [] then pure []
  else if Derivation.isExplicit tokens then
    let (handles, rest) ← Derivation.directives false [] tokens
    match rest with
    | .documentStart :: rest =>
      (Derivation.mk rest [.content, .streamEnd] []
        (handles ++ Derivation.standardHandles)).run
    | _ => .error .badDirective
  else (Derivation.mk tokens [.blockNode, .streamEnd] [] Derivation.standardHandles).run

end ComponentBrowser.Yaml
