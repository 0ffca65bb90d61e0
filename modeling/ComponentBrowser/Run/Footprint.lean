import ComponentBrowser.Run

/-!
# ComponentBrowser.Run.Footprint

The paths that a run looks at.  Some are known only once others have been
looked at: the settings file may name another workspace, and the components lie
in the workspace.  A `Snapshot` holds what is known so far.
-/

namespace ComponentBrowser

/-- A file system of which some paths are known. -/
structure Snapshot where
  currentDirectory : Path
  known : List (Path × Option Entry)

/-- The file system that a snapshot shows; other paths lead nowhere. -/
def Snapshot.toFileSystem (s : Snapshot) : FileSystem :=
  ⟨s.currentDirectory, fun p => (s.known.lookup p).join⟩

namespace Run

/-- How many rounds of looking show all that a run needs: the workspace and the
settings file, the workspace that the file names, and the components. -/
def rounds : Nat := 3

/-- The workspace that a settings file names. -/
def namedWorkspace (fs : FileSystem) (file : Path) : List Path :=
  match Settings.readFile fs file with
  | .ok f => (f.workspace?.map Path.ofText).toList
  | .error _ => []

/-- The files of the components, once the workspace is known. -/
def componentPaths (fs : FileSystem) (v : Variables) (o : Overrides) : List Path :=
  match Settings.load fs v o with
  | .ok s => Component.catalog.map fun c => Component.pathIn s.workspace c.filename
  | .error _ => []

/-- The paths that a run looks at, as far as what is known tells. -/
def footprint (fs : FileSystem) (v : Variables) (words : List Bytes) : List Path :=
  match CommandLine.read v words with
  | .error _ => []
  | .ok request =>
    let o := request.overrides
    let workspace := (o.workspace? <|> v.workspace?.map Path.mk).getD fs.currentDirectory
    let file := (o.configFile? <|> v.configFile?.map Path.mk).getD
      (workspace.join (Path.ofText Settings.fileName))
    [workspace, file] ++ namedWorkspace fs file ++ componentPaths fs v o

end Run

end ComponentBrowser
