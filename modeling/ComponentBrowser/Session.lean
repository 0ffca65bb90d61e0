import ComponentBrowser.Files.Tree
import ComponentBrowser.Run

/-!
# ComponentBrowser.Session

A series of operations on one file tree: changes of files, and loading,
changing, checking and using settings that stay current until changed again.
-/

namespace ComponentBrowser

/-- A file tree with a directory to work in, and the current settings. -/
structure Session where
  tree : Tree
  directory : Place
  settings : Settings

namespace Session

/-- One operation. -/
inductive Step where
  /-- Put a node where a path leads, in place of what was there. -/
  | write (p : Path) (node : Tree.Node)
  | remove (p : Path)
  /-- Load settings, which become the current ones. -/
  | load (v : Variables) (o : Overrides)
  /-- Lay overrides over the current settings. -/
  | override (o : Overrides)
  /-- Check the current settings. -/
  | validate
  /-- Run a command with the current settings. -/
  | command (c : Command) (json : Bool)
  /-- Run the whole program in a directory, apart from the current settings. -/
  | program (v : Variables) (words : List Bytes) (directory : Path)

/-- What an operation answers. -/
inductive Answer where
  | done
  | settings (result : Except SettingsFault Settings)
  | validity (result : Except SettingsFault Unit)
  | text (result : Except Error String)
  | outcome (v : Variables) (o : Outcome)

/-- A session in a directory of a tree, with the default settings. -/
def start (tree : Tree) (directory : Place) : Session :=
  ⟨tree, directory, Settings.initial (tree.seenFrom directory)⟩

/-- The file system that the session works with. -/
def fs (s : Session) : FileSystem := s.tree.seenFrom s.directory

/-- The file system seen from another directory. -/
def fsFrom (s : Session) (p : Path) : FileSystem :=
  s.tree.seenFrom ((s.tree.resolve s.directory p).getD s.directory)

/-- What an operation answers. -/
def answer (s : Session) : Step → Answer
  | .write _ _ | .remove _ => .done
  | .load v o => .settings (Settings.load s.fs v o)
  | .override o => .settings (.ok (s.settings.withOverrides o))
  | .validate => .validity (s.settings.validate s.fs)
  | .command c json => .text (c.answer s.fs s.settings json)
  | .program v words directory => .outcome v (run (s.fsFrom directory) v words)

/-- The session after an operation. -/
def step (s : Session) : Step → Session
  | .write p node => { s with tree := s.tree.write s.directory p node }
  | .remove p => { s with tree := s.tree.remove s.directory p }
  | .load v o =>
    match Settings.load s.fs v o with
    | .ok settings => { s with settings }
    | .error _ => s
  | .override o => { s with settings := s.settings.withOverrides o }
  | .validate | .command _ _ | .program _ _ _ => s

/-- What a series of operations answers, in order. -/
def answers (s : Session) : List Step → List Answer
  | [] => []
  | step :: rest => s.answer step :: (s.step step).answers rest

end Session

end ComponentBrowser
