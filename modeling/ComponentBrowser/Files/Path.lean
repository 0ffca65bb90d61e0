import ComponentBrowser.Text.Quoted

/-!
# ComponentBrowser.Files.Path

Paths, as the bytes the system stores: they need not be text.
-/

namespace ComponentBrowser

/-- A path, absolute or relative. -/
structure Path where
  bytes : Bytes
  deriving DecidableEq

namespace Path

/-- The byte between the names of a path. -/
def separator : UInt8 := 0x2F

/-- The path a text spells. -/
def ofText (s : String) : Path := ⟨Bytes.ofText s⟩

/-- The text of a path, if it is text. -/
def toText? (p : Path) : Option String := p.bytes.toText?

/-- A path as text, with U+FFFD for what is not text. -/
def toText (p : Path) : String := p.bytes.toText

/-- A path between quotes, as messages show it. -/
def quoted (p : Path) : String := Text.quotedBytes p.bytes

/-- Whether a path starts from the root. -/
def isAbsolute (p : Path) : Bool := p.bytes.head? == some separator

/-- The path `q` seen from the directory `p`: an absolute `q` replaces `p`, and
a separator is put between the two unless `p` ends in one. -/
def join (p q : Path) : Path :=
  if q.isAbsolute then q
  else if p.bytes = [] ∨ p.bytes.getLast? = some separator then ⟨p.bytes ++ q.bytes⟩
  else ⟨p.bytes ++ separator :: q.bytes⟩

/-- The names between the separators, the empty ones included. -/
def split (bytes : Bytes) : List Bytes :=
  bytes.foldr (fun b names =>
    if b = separator then [] :: names
    else match names with
      | [] => [[b]]
      | name :: names => (b :: name) :: names) [[]]

/-- The names of a path, in order.  An empty name, as a doubled or a trailing
separator leaves one, stands for the directory itself, like `.`. -/
def names (p : Path) : List Bytes := split (if p.isAbsolute then p.bytes.drop 1 else p.bytes)

end Path

end ComponentBrowser
