import ComponentBrowser.Files.FileSystem

/-!
# ComponentBrowser.Files.Tree

A file tree as a value: what stands at each place, symbolic links unfollowed,
and the walk that follows a path through it.  `Tree.seenFrom` is the file
system that a program running in one of its directories sees.  Each place has
a node of its own: there are no hard links, through which two places would
share one file.

* `nodeAt_put_self`, `nodeAt_put_of_ne` — a node put at a place stands there,
  and nothing else changes.
-/

namespace ComponentBrowser

/-- What stands at a place of a tree. -/
inductive Tree.Node where
  | file (content : Bytes)
  /-- A directory and the size the system reports for it. -/
  | directory (size : Nat)
  /-- A symbolic link and the path it names. -/
  | link (target : Path)
  deriving DecidableEq

/-- A place in a tree: the names from the root down to it. -/
abbrev Place := List Bytes

/-- A file tree: what stands at each place below the root. -/
structure Tree where
  nodeAt : Place → Option Tree.Node

namespace Tree

/-- The size reported for directories made by `put`. -/
def directorySize : Nat := 4096

/-- How many links one walk may follow. -/
def linkLimit : Nat := 40

/-- The length in bytes from which on a path is too long to be followed. -/
def pathLimit : Nat := 4096

/-- The tree whose root is empty. -/
def empty : Tree := ⟨fun _ => none⟩

/-! ## walking -/

/-- What stands at a place; the root is a directory. -/
def find (t : Tree) (place : Place) : Option Node :=
  if place = [] then some (.directory directorySize) else t.nodeAt place

/-- How a walk along names ends. -/
inductive Stop where
  /-- All names are used up. -/
  | arrived (place : Place)
  /-- A link stands in the way, in this directory and with these names behind it. -/
  | link (directory : Place) (target : Path) (behind : List Bytes)
  /-- A name does not exist, or something that is no directory has names behind it. -/
  | blocked

/-- Walk from a place along names, up to the first link. -/
def advance (t : Tree) (here : Place) : List Bytes → Stop
  | [] => .arrived here
  | name :: rest =>
    match t.find here with
    | some (.directory _) =>
      if name = [] ∨ name = [0x2E] then t.advance here rest
      else if name = [0x2E, 0x2E] then t.advance here.dropLast rest
      else match t.nodeAt (here ++ [name]) with
        | none => .blocked
        | some (.link target) => .link here target rest
        | some _ => t.advance (here ++ [name]) rest
    | _ => .blocked

/-- Walk from a place along names, following at most `links` links. -/
def walk (t : Tree) (links : Nat) (here : Place) (names : List Bytes) : Option Place :=
  match t.advance here names with
  | .arrived place => some place
  | .blocked => none
  | .link directory target behind =>
    match links with
    | 0 => none
    | links + 1 =>
      t.walk links (if target.isAbsolute then [] else directory) (target.names ++ behind)

/-- Where a path leads from a directory; the empty path leads nowhere. -/
def resolve (t : Tree) (start : Place) (p : Path) : Option Place :=
  if p.bytes = [] ∨ pathLimit ≤ p.bytes.length then none
  else t.walk linkLimit (if p.isAbsolute then [] else start) p.names

/-- What a path leads to from a directory. -/
def entry? (t : Tree) (start : Place) (p : Path) : Option Entry :=
  match (t.resolve start p).bind t.find with
  | some (.file content) => some (.file content)
  | some (.directory size) => some (.directory size)
  | _ => none

/-- The absolute path of a place. -/
def pathOf (place : Place) : Path :=
  if place = [] then ⟨[Path.separator]⟩ else ⟨place.flatMap (Path.separator :: ·)⟩

/-- The file system seen from a directory of the tree. -/
def seenFrom (t : Tree) (directory : Place) : FileSystem :=
  ⟨pathOf directory, t.entry? directory⟩

/-! ## changing -/

/-- Put a node at a place. -/
def put (t : Tree) (place : Place) (node : Node) : Tree :=
  ⟨fun p => if p = place then some node else t.nodeAt p⟩

/-- Remove a place and everything below it. -/
def erase (t : Tree) (place : Place) : Tree :=
  ⟨fun p => if place <+: p then none else t.nodeAt p⟩

/-- Make a directory at a place, unless one stands there. -/
def makeDirectory (t : Tree) (place : Place) : Tree :=
  match t.find place with
  | some (.directory _) => t
  | _ => t.put place (.directory directorySize)

/-- The place a path of names leads to from a directory, for writing: links
among the directories on the way are followed, and missing ones are made. -/
def openFor (t : Tree) (here : Place) : List Bytes → Tree × Place
  | [] => (t, here)
  | [name] => (t, here ++ [name])
  | name :: rest =>
    let next := (t.walk linkLimit here [name]).getD (here ++ [name])
    (t.makeDirectory next).openFor next rest

/-- Write a node where a relative path leads, in place of what was there. -/
def write (t : Tree) (start : Place) (p : Path) (node : Node) : Tree :=
  let (t, place) := t.openFor start p.names
  (t.erase place).put place node

/-- Remove what stands where a relative path leads; links are not followed at
its end. -/
def remove (t : Tree) (start : Place) (p : Path) : Tree :=
  match t.walk linkLimit start p.names.dropLast, p.names.getLast? with
  | some directory, some name => t.erase (directory ++ [name])
  | _, _ => t

/-! ## what a write changes -/

@[simp] theorem nodeAt_put_self (t : Tree) (place : Place) (node : Node) :
    (t.put place node).nodeAt place = some node := by
  simp [put]

theorem nodeAt_put_of_ne (t : Tree) {place other : Place} (node : Node) (h : other ≠ place) :
    (t.put place node).nodeAt other = t.nodeAt other := by
  simp [put, h]

theorem nodeAt_erase_of_not_prefix (t : Tree) {place other : Place} (h : ¬ place <+: other) :
    (t.erase place).nodeAt other = t.nodeAt other := by
  simp [erase, h]

end Tree

end ComponentBrowser
