import ComponentBrowser.Catalog.Component
import ComponentBrowser.Files.FileSystem
import ComponentBrowser.Json.Value
import ComponentBrowser.Log.Event
import ComponentBrowser.Text.Grouped
import ComponentBrowser.Text.Section

/-!
# ComponentBrowser.Catalog.Listing

The catalog with the size of each file in a workspace.  A missing file is no
error: its entry has no size.  A listing is written as text or as JSON.
-/

namespace ComponentBrowser

/-- A component as it is listed. -/
structure Listing where
  index : Nat
  filename : String
  description : String
  /-- The size of the file in bytes, if there is one. -/
  size? : Option Nat
  deriving DecidableEq, Repr

/-- Where a file of the catalog stands in a workspace. -/
def Component.pathIn (workspace : Path) (filename : String) : Path :=
  workspace.join (Path.ofText filename)

namespace Listing

/-- The listing of one component. -/
def of (fs : FileSystem) (workspace : Path) (index : Nat) (c : Component) : Listing :=
  ⟨index, c.filename, c.description, fs.size? (Component.pathIn workspace c.filename)⟩

/-- The whole catalog, with the sizes found in a workspace. -/
def all (fs : FileSystem) (workspace : Path) : List Listing :=
  Component.catalog.zipIdx.map fun (c, index) => of fs workspace index c

/-! ## as text -/

/-- The title above a listing. -/
def title : String := "INNODB COMPONENTS FOR ANALYSIS"

/-- The width of the column of file names. -/
def filenameWidth : Nat := 35

/-- A text filled up with blanks behind it. -/
def padEnd (width : Nat) (s : String) : String :=
  s ++ String.ofList (List.replicate (width - s.length) ' ')

/-- A text filled up with blanks before it. -/
def padStart (width : Nat) (s : String) : String :=
  String.ofList (List.replicate (width - s.length) ' ') ++ s

/-- The line that names a component. -/
def nameLine (l : Listing) : String :=
  padStart 2 (Decimal.render l.index) ++ ". " ++ padEnd filenameWidth l.filename ++ " - " ++
    l.description ++ "\n"

/-- The line with the size of a component; empty files get none, like missing ones. -/
def sizeLine (l : Listing) : String :=
  match l.size? with
  | none => ""
  | some 0 => ""
  | some size =>
    "    Size: " ++ Grouped.render size ++ " bytes (" ++ Decimal.render (size / 1024) ++ "KB)\n"

/-- A listing as text. -/
def render (ls : List Listing) : String :=
  Section.header title ++ String.join (ls.map fun l => l.nameLine ++ l.sizeLine) ++
    Section.rule ++ "\n"

/-! ## as JSON -/

/-- A listed component as a JSON object. -/
def toJson (l : Listing) : Json :=
  .object
    [("index", .ofNat l.index),
     ("filename", .string l.filename),
     ("description", .string l.description),
     ("sizeBytes", (l.size?.map Json.ofNat).getD .null)]

/-- A listing as a JSON array. -/
def listToJson (ls : List Listing) : Json := .array (ls.map toJson)

/-! ## in the log -/

/-- An optional value as log fields show it. -/
def inspectOption (x : Option String) : String :=
  match x with
  | none => "None"
  | some s => "Some(" ++ s ++ ")"

/-- What is reported when a component is looked at. -/
def probed (workspace : Path) (l : Listing) : Log.Event where
  level := .debug
  target := "analyze_catalog::lister"
  message := "Probed component"
  fields :=
    [("index", Decimal.render l.index),
     ("path", (Component.pathIn workspace l.filename).quoted),
     ("size_bytes", inspectOption (l.size?.map Decimal.render))]

end Listing

end ComponentBrowser
