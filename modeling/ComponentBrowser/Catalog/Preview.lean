import ComponentBrowser.Catalog.Listing
import ComponentBrowser.Error

/-!
# ComponentBrowser.Catalog.Preview

The beginning of a component's file.  A preview is cut by characters, while
the size that it mentions is that of the whole file in bytes.

* `toList_text_ofContent` — the text of a preview is a prefix of the content.
-/

namespace ComponentBrowser

/-- The beginning of a component's file. -/
structure Preview where
  filename : String
  /-- The characters shown. -/
  text : String
  /-- The size of the whole file in bytes. -/
  totalBytes : Nat
  /-- Whether characters of the file are missing from the text. -/
  truncated : Bool
  deriving DecidableEq, Repr

namespace Preview

/-- The first `limit` characters of a file with a given content. -/
def ofContent (filename : String) (content : Bytes) (limit : Nat) : Preview :=
  let chars := Utf8.decode content
  ⟨filename, String.ofList (chars.take limit), content.length, limit < chars.length⟩

/-- The preview of the component with an index.  The index is looked at before
the workspace is. -/
def load (fs : FileSystem) (workspace : Path) (index : Int) (limit : Nat) :
    Except Error Preview :=
  match Component.withIndex? index with
  | none => .error (.invalidIndex index)
  | some c =>
    let file := Component.pathIn workspace c.filename
    if fs.holds file then
      match fs.read file with
      | .ok content => .ok (ofContent c.filename content limit)
      | .error cause => .error (.io cause)
    else .error (.componentNotFound c.filename)

/-- A preview as text.  The closing line says "truncated" of every preview. -/
def render (p : Preview) : String :=
  Section.header ("COMPONENT: " ++ p.filename) ++ p.text ++
    "\n\n... (truncated, total size: " ++ Grouped.render p.totalBytes ++ " bytes)\n"

/-! ## in the log -/

/-- What is reported when a preview has been loaded or refused. -/
def reported (workspace : Path) : Except Error Preview → List Log.Event
  | .ok p =>
    [{ level := .info
       target := "analyze_catalog::viewer"
       message := "Loaded component preview"
       fields :=
        [("filename", Text.quoted p.filename),
         ("total_bytes", Decimal.render p.totalBytes),
         ("truncated", if p.truncated then "true" else "false")] }]
  | .error (.componentNotFound filename) =>
    [{ level := .debug
       target := "analyze_catalog::viewer"
       message := "Component file missing"
       fields := [("path", (Component.pathIn workspace filename).quoted)] }]
  | .error _ => []

/-! ## cutting -/

theorem toList_text_ofContent (filename : String) (content : Bytes) (limit : Nat) :
    (ofContent filename content limit).text.toList = (Utf8.decode content).take limit := by
  simp [ofContent]

end Preview

end ComponentBrowser
