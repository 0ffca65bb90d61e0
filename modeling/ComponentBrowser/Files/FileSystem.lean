import ComponentBrowser.Files.Path

/-!
# ComponentBrowser.Files.FileSystem

The file system at one moment, as far as a program can ask about it by path:
where relative paths start, and what stands at the end of a path once every
symbolic link on the way has been followed.  What can be read is an ordinary
file, whose size is the length of its content; pipes, devices and files that the
system makes up while they are read, whose reported size says nothing about
their content, are left out.

* `isSome_size?` — what is there has a size, and nothing else has one;
* `size?_of_read` — what can be read has the size of its content.
-/

namespace ComponentBrowser

/-- Why reading a file fails. -/
inductive ReadError where
  | notFound
  | isDirectory
  | denied
  /-- Any other cause, by its description. -/
  | other (description : String)
  deriving DecidableEq

namespace ReadError

/-- The description of a read failure. -/
def message : ReadError → String
  | notFound => "No such file or directory (os error 2)"
  | isDirectory => "Is a directory (os error 21)"
  | denied => "Permission denied (os error 13)"
  | other description => description

/-- A read failure as log fields show it. -/
def inspect : ReadError → String
  | notFound => "Os \x7b code: 2, kind: NotFound, message: \"No such file or directory\" \x7d"
  | isDirectory => "Os \x7b code: 21, kind: IsADirectory, message: \"Is a directory\" \x7d"
  | denied => "Os \x7b code: 13, kind: PermissionDenied, message: \"Permission denied\" \x7d"
  | other description =>
    "Custom \x7b kind: Other, error: " ++ Text.quoted description ++ " \x7d"

end ReadError

/-- What a path leads to. -/
inductive Entry where
  /-- A regular file and its content. -/
  | file (content : Bytes)
  /-- A regular file that cannot be read, its size, and why. -/
  | unreadable (size : Nat) (cause : ReadError)
  /-- A directory and the size the system reports for it. -/
  | directory (size : Nat)
  deriving DecidableEq

namespace Entry

/-- The size the system reports, in bytes. -/
def size : Entry → Nat
  | file content => content.length
  | unreadable size _ => size
  | directory size => size

end Entry

/-- A file system at one moment. -/
structure FileSystem where
  /-- The absolute path of the current directory. -/
  currentDirectory : Path
  /-- What a path leads to, links followed; nothing if it leads nowhere. -/
  entry? : Path → Option Entry

namespace FileSystem

/-- Whether a path leads to something. -/
def holds (fs : FileSystem) (p : Path) : Bool := (fs.entry? p).isSome

/-- Whether a path leads to a directory. -/
def isDirectory (fs : FileSystem) (p : Path) : Bool :=
  match fs.entry? p with
  | some (.directory _) => true
  | _ => false

/-- Whether a path leads to a regular file. -/
def isFile (fs : FileSystem) (p : Path) : Bool :=
  match fs.entry? p with
  | some (.file _) | some (.unreadable _ _) => true
  | _ => false

/-- The size of what a path leads to. -/
def size? (fs : FileSystem) (p : Path) : Option Nat := (fs.entry? p).map Entry.size

/-- The content of the file a path leads to. -/
def read (fs : FileSystem) (p : Path) : Except ReadError Bytes :=
  match fs.entry? p with
  | some (.file content) => .ok content
  | some (.unreadable _ cause) => .error cause
  | some (.directory _) => .error .isDirectory
  | none => .error .notFound

@[simp] theorem isSome_size? (fs : FileSystem) (p : Path) :
    (fs.size? p).isSome = fs.holds p := by
  simp [size?, holds]

theorem size?_eq_none_iff (fs : FileSystem) (p : Path) :
    fs.size? p = none ↔ fs.holds p = false := by
  rw [← isSome_size?, Option.isSome_eq_false_iff, Option.isNone_iff_eq_none]

theorem size?_of_read {fs : FileSystem} {p : Path} {content : Bytes}
    (h : fs.read p = .ok content) : fs.size? p = some content.length := by
  unfold read at h
  split at h
  · next found hentry =>
      injection h with h
      rw [size?, hentry, ← h]
      rfl
  · contradiction
  · contradiction
  · contradiction

end FileSystem

end ComponentBrowser
