import ComponentBrowser.Catalog.Preview
import ComponentBrowser.Files.Tree

/-!
# ComponentBrowser.Proofs.Catalog.Agreement

The listing of a workspace and the previews of its components tell the same
about every file.  Each goes its own way to it: the listing walks the catalog
and asks for sizes; a preview looks its component up by an integer, asks whether
the file is there, and reads it.

```
the file             listed with     its preview
is not there         no size         is refused: component not found
can be read          its size        succeeds, with that size
cannot be read       a size          is refused: input error
```

* `Preview.load_of_holds_eq_false`, `Preview.load_of_read_eq_ok`,
  `Preview.load_of_read_eq_error` — the column of the previews;
* `Listing.agrees_with_preview` — both columns.
-/

namespace ComponentBrowser

theorem Component.withIndex?_natCast (i : Nat) : withIndex? i = catalog[i]? := by
  rw [withIndex?, if_pos (Int.natCast_nonneg i), Int.toNat_natCast]

/-! ## the column of the previews -/

namespace Preview

variable {fs : FileSystem} {workspace : Path} {index : Int} {c : Component}

theorem load_of_holds_eq_false (hc : Component.withIndex? index = some c)
    (h : fs.holds (Component.pathIn workspace c.filename) = false) (limit : Nat) :
    load fs workspace index limit = .error (.componentNotFound c.filename) := by
  simp [load, hc, h]

theorem load_of_read_eq_ok (hc : Component.withIndex? index = some c) {content : Bytes}
    (h : fs.read (Component.pathIn workspace c.filename) = .ok content) (limit : Nat) :
    load fs workspace index limit = .ok (ofContent c.filename content limit) := by
  -- what can be read is there
  have hholds : fs.holds (Component.pathIn workspace c.filename) = true := by
    rw [← FileSystem.isSome_size?, FileSystem.size?_of_read h]
    rfl
  simp [load, hc, h, hholds]

theorem load_of_read_eq_error (hc : Component.withIndex? index = some c)
    (hholds : fs.holds (Component.pathIn workspace c.filename) = true) {cause : ReadError}
    (h : fs.read (Component.pathIn workspace c.filename) = .error cause) (limit : Nat) :
    load fs workspace index limit = .error (.io cause) := by
  simp [load, hc, h, hholds]

end Preview

/-! ## both columns -/

namespace Listing

theorem getElem?_all (fs : FileSystem) (workspace : Path) (i : Nat) :
    (all fs workspace)[i]? = Component.catalog[i]?.map (of fs workspace i) := by
  rw [all, List.getElem?_map, List.getElem?_zipIdx, Option.map_map, Nat.zero_add]
  rfl

/-- **The listing and the previews agree** on every component: no size is
listed exactly where a preview does not find the file, a preview that succeeds
is of the file and of the size that are listed, and whatever else becomes of a
preview is an input error on a file that is listed with a size. -/
theorem agrees_with_preview (fs : FileSystem) (workspace : Path) (i : Nat)
    (hi : i < Component.catalog.length) (limit : Nat) :
    ∃ l, (all fs workspace)[i]? = some l ∧ l.index = i ∧
      l.filename = Component.catalog[i].filename ∧
      (l.size? = none ↔
        Preview.load fs workspace i limit = .error (.componentNotFound l.filename)) ∧
      (∀ p, Preview.load fs workspace i limit = .ok p →
        p.filename = l.filename ∧ l.size? = some p.totalBytes) ∧
      (∀ e, Preview.load fs workspace i limit = .error e → e ≠ .componentNotFound l.filename →
        (∃ cause, e = .io cause) ∧ ∃ size, l.size? = some size) := by
  have hat : Component.catalog[i]? = some Component.catalog[i] := List.getElem?_eq_getElem hi
  have hc := (Component.withIndex?_natCast i).trans hat
  have hlisted : (all fs workspace)[i]? = some (of fs workspace i Component.catalog[i]) := by
    rw [getElem?_all, hat, Option.map_some]
  refine ⟨_, hlisted, rfl, rfl, ?_⟩
  dsimp only [of]
  cases hholds : fs.holds (Component.pathIn workspace Component.catalog[i].filename) with
  | false =>
      rw [Preview.load_of_holds_eq_false hc hholds limit, (fs.size?_eq_none_iff _).mpr hholds]
      simp
  | true =>
      cases hread : fs.read (Component.pathIn workspace Component.catalog[i].filename) with
      | ok content =>
          rw [Preview.load_of_read_eq_ok hc hread limit, FileSystem.size?_of_read hread]
          simp [Preview.ofContent]
      | error cause =>
          have hsome := (fs.isSome_size? _).trans hholds
          obtain ⟨size, hsize⟩ := Option.isSome_iff_exists.mp hsome
          rw [Preview.load_of_read_eq_error hc hholds hread limit, hsize]
          simp

/-! ## a workspace with links -/

/-- A workspace that holds a component behind two links, one behind a link that
leads nowhere, one that is a link to itself, and one that is a directory. -/
def linkedWorkspace : FileSystem :=
  let here := fun name => [Bytes.ofText "w", Bytes.ofText name]
  let node? := fun place : Place =>
    [([Bytes.ofText "w"], Tree.Node.directory 4096),
     (here "00_COMPONENT_OVERVIEW.txt", .link (Path.ofText "../w/first")),
     (here "first", .link (Path.ofText "/w/second")),
     (here "second", .file [0xC3, 0xA9, 0xFF]),
     (here "21_universal_header.txt", .link (Path.ofText "nowhere")),
     (here "01_page_management.txt", .link (Path.ofText "01_page_management.txt")),
     (here "02_file_tablespace_management.txt", .directory 4096)].lookup place
  (Tree.mk node?).seenFrom []

/-- The file behind the links has its size in both, the link to itself is
missing in both, and the directory is there but refuses to be read. -/
theorem agrees_with_preview_linked :
    (∃ l, (all linkedWorkspace (Path.ofText "w"))[0]? = some l ∧
      Preview.load linkedWorkspace (Path.ofText "w") 0 1 = .ok ⟨l.filename, "é", 3, true⟩ ∧
      l.size? = some 3) ∧
    (∃ l, (all linkedWorkspace (Path.ofText "w"))[2]? = some l ∧
      Preview.load linkedWorkspace (Path.ofText "w") 2 1 =
        .error (.componentNotFound l.filename) ∧ l.size? = none) ∧
    (∃ l, (all linkedWorkspace (Path.ofText "w"))[3]? = some l ∧
      Preview.load linkedWorkspace (Path.ofText "w") 3 1 = .error (.io .isDirectory) ∧
      ∃ size, l.size? = some size) := by
  refine ⟨?_, ?_, ?_⟩
  · obtain ⟨l, hl, -, hname, -, hok, -⟩ :=
      agrees_with_preview linkedWorkspace (Path.ofText "w") 0 (by decide) 1
    have hload : Preview.load linkedWorkspace (Path.ofText "w") 0 1 =
        .ok ⟨l.filename, "é", 3, true⟩ := by
      rw [hname]
      rfl
    exact ⟨l, hl, hload, (hok _ hload).2⟩
  · obtain ⟨l, hl, -, hname, hnone, -⟩ :=
      agrees_with_preview linkedWorkspace (Path.ofText "w") 2 (by decide) 1
    have hload : Preview.load linkedWorkspace (Path.ofText "w") 2 1 =
        .error (.componentNotFound l.filename) := by
      rw [hname]
      rfl
    exact ⟨l, hl, hload, hnone.mpr hload⟩
  · obtain ⟨l, hl, -, -, -, -, herror⟩ :=
      agrees_with_preview linkedWorkspace (Path.ofText "w") 3 (by decide) 1
    have hload : Preview.load linkedWorkspace (Path.ofText "w") 3 1 =
        .error (.io .isDirectory) := rfl
    exact ⟨l, hl, hload, (herror _ hload (by simp)).2⟩

end Listing

end ComponentBrowser
