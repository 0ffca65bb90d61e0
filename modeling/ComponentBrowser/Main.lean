import ComponentBrowser.Run.Footprint

/-!
# ComponentBrowser.Main

The program: it looks at the files that a run needs, and prints what the run
says.
-/

namespace ComponentBrowser.Main

/-- The environment variables that a run knows. -/
def readVariables : IO Variables := do
  let value := fun (name : String) => do
    return (← IO.getEnv name).map Bytes.ofText
  return ⟨← value "ANALYZE_WORKSPACE", ← value "ANALYZE_CONFIG", ← value "RUST_LOG",
    ← value "NO_COLOR"⟩

/-- Why reading a file failed. -/
def readError : IO.Error → ReadError
  | .permissionDenied _ _ _ => .denied
  | e => .other (toString e)

/-- What a path leads to; nothing if it cannot be looked at. -/
def look (p : Path) : IO (Option Entry) := do
  match p.toText? with
  | none | some "" => return none
  | some text =>
    try
      let file := (← IO.currentDir) / text
      let found ← file.metadata
      match found.type with
      | .dir => return some (.directory found.byteSize.toNat)
      | .file =>
        match ← (IO.FS.readBinFile file).toBaseIO with
        | .ok content => return some (.file content.toList)
        | .error e => return some (.unreadable found.byteSize.toNat (readError e))
      | _ => return none
    catch _ => return none

/-- Look at the paths that a run needs, round by round. -/
def lookAround (v : Variables) (words : List Bytes) (s : Snapshot) : Nat → IO Snapshot
  | 0 => return s
  | rounds + 1 => do
    let paths := Run.footprint s.toFileSystem v words
    let known ← paths.mapM fun p => return (p, ← look p)
    lookAround v words { s with known } rounds

end ComponentBrowser.Main

open ComponentBrowser in
/-- Run the program. -/
def main (arguments : List String) : IO UInt32 := do
  let v ← Main.readVariables
  let words := arguments.map Bytes.ofText
  let directory := Path.ofText (← IO.currentDir).toString
  let snapshot ← Main.lookAround v words ⟨directory, []⟩ Run.rounds
  let outcome := run snapshot.toFileSystem v words
  for line in outcome.log do
    IO.eprintln line
  IO.eprint (outcome.stderr v)
  IO.print (outcome.stdout v)
  return outcome.exitCode.toUInt32
