import ComponentBrowser.Text.Hexadecimal
import ComponentBrowser.Yaml.Document

/-!
# ComponentBrowser.Yaml.Reading

Reading values of known kinds from a document: texts, flags, counts, values
that may be missing, and the members of mappings.

Any scalar is a text.  Flags, counts and the words for "nothing" are written
plain, or as literal scalars that are tagged as what they are.
-/

namespace ComponentBrowser.Yaml

namespace Document

/-- A standard tag. -/
def standardTag (name : String) : Bytes := Bytes.ofText ("tag:yaml.org,2002:" ++ name)

/-- The scalar that a node is, or that its alias stands for. -/
def scalar? (d : Document) (n : Node) : Option Scalar :=
  match d.resolve n with
  | some (.scalar s) => some s
  | _ => none

/-- A text. -/
def text (d : Document) (n : Node) : Except Fault String :=
  match d.scalar? n with
  | some s => .ok s.text
  | none => .error (.wrongKind "a string")

/-- Whether a scalar is read as more than text: a plain one, or a literal one
with the tag of what is expected. -/
def isTyped (tag : String) (s : Scalar) : Bool :=
  s.style == .plain || (s.style == .literal && s.tag? == some (standardTag tag))

/-- A value that a function finds in the text of a typed scalar. -/
def typed {α : Type} (d : Document) (tag kind : String) (find : String → Option α) (n : Node) :
    Except Fault α :=
  match (d.scalar? n).filter (isTyped tag) with
  | some s =>
    match find s.text with
    | some x => .ok x
    | none => .error (.wrongKind kind)
  | none => .error (.wrongKind kind)

/-! ## flags and counts -/

/-- The flag that a word stands for. -/
def flagOf? (s : String) : Option Bool :=
  if ["true", "True", "TRUE"].contains s then some true
  else if ["false", "False", "FALSE"].contains s then some false
  else none

/-- The digit of a base that a character is. -/
def digitOf? (base : Nat) (c : Char) : Option Nat :=
  (Hexadecimal.value? c).filter (· < base)

/-- The number below `2 ^ 64` that digits of a base stand for. -/
def numberOf? (base : Nat) (cs : List Char) : Option Nat :=
  if cs = [] then none
  else
    ((cs.mapM (digitOf? base)).map (·.foldl (fun n d => base * n + d) 0)).filter (· < UInt64.size)

/-- The digits behind the letter of a base. -/
def basedNumberOf? : List Char → Option Nat
  | '0' :: 'x' :: digits => numberOf? 16 digits
  | '0' :: 'o' :: digits => numberOf? 8 digits
  | '0' :: 'b' :: digits => numberOf? 2 digits
  | _ => none

/-- The count that a text stands for: digits, perhaps behind a plus sign and
with the letter of a base.  A decimal of several digits begins with no zero. -/
def countOf? (s : String) : Option Nat :=
  let cs := if s.toList.head? = some '+' then s.toList.drop 1 else s.toList
  match basedNumberOf? cs with
  | some n => some n
  | none => if 1 < cs.length ∧ cs.head? = some '0' then none else numberOf? 10 cs

/-- A flag. -/
def flag (d : Document) : Node → Except Fault Bool := d.typed "bool" "a boolean" flagOf?

/-- A count below `2 ^ 64`. -/
def count (d : Document) : Node → Except Fault Nat := d.typed "int" "a count" countOf?

/-! ## nothing -/

/-- The words for "nothing". -/
def isNullWord (s : String) : Bool := ["null", "Null", "NULL", "~"].contains s

/-- Whether a scalar says that nothing is there. -/
def isNothing (s : Scalar) : Except Fault Bool :=
  if s.style ≠ .plain then .ok false
  else match s.tag? with
    | none => .ok (s.text == "" || isNullWord s.text)
    | some tag =>
      if tag ≠ standardTag "null" then .ok false
      else if isNullWord s.text then .ok true
      else .error (.wrongKind "null")

/-- Whether a node says that nothing is there. -/
def saysNothing (d : Document) (n : Node) : Except Fault Bool :=
  match d.scalar? n with
  | some s => isNothing s
  | none => .ok false

/-- A value that may be missing. -/
def optional {α : Type} (d : Document) (read : Node → Except Fault α) (n : Node) :
    Except Fault (Option α) := do
  let nothing ← d.saysNothing n
  if nothing then pure none else (read n).map some

/-! ## members -/

/-- The entries of a mapping; an empty plain scalar counts as an empty one. -/
def entries (d : Document) (n : Node) : Except Fault (List (Node × Node)) :=
  match d.resolve n with
  | some (.mapping entries) => .ok entries
  | some (.scalar s) =>
    if s.style = .plain ∧ s.text = "" then .ok [] else .error (.wrongKind "a mapping")
  | _ => .error (.wrongKind "a mapping")

/-- The members found so far and one more entry.  Entries with other names are
passed over; keys have to be scalars, and each name may stand there once. -/
def addMember (d : Document) (names : List String) (found : List (String × Node))
    (entry : Node × Node) : Except Fault (List (String × Node)) := do
  let name ← d.text entry.1
  if !names.contains name then pure found
  else if (found.lookup name).isSome then .error (.repeatedKey name)
  else pure ((name, entry.2) :: found)

/-- The members of a mapping with the given names. -/
def members (d : Document) (names : List String) (n : Node) :
    Except Fault (List (String × Node)) := do
  (← d.entries n).foldlM (d.addMember names) []

/-- A member that may be missing or say that nothing is there. -/
def optionalMember {α : Type} (d : Document) (read : Node → Except Fault α)
    (members : List (String × Node)) (name : String) : Except Fault (Option α) :=
  match members.lookup name with
  | some n => d.optional read n
  | none => .ok none

/-- A member that has to be there. -/
def requiredMember {α : Type} (read : Node → Except Fault α) (members : List (String × Node))
    (name : String) : Except Fault α :=
  match members.lookup name with
  | some n => read n
  | none => .error (.missingKey name)

/-- The node of a document; an empty document has an empty scalar. -/
def root (d : Document) : Node := d.root?.getD (.scalar ⟨"", .plain, none⟩)

end Document

end ComponentBrowser.Yaml
