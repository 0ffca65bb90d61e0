import ComponentBrowser.Proofs.Command.Outcomes
import ComponentBrowser.Proofs.Files.Walk
import ComponentBrowser.Proofs.Text.Utf8
import Mathlib.Data.List.Nodup

/-!
# ComponentBrowser.Proofs.Command.Dependence

What the result of a command depends on.  Of its arguments it takes at most two,
and of the file system it looks at

```
usage, prompt, unknown        nothing
show <index>                  the file of that component, if there is one
list                          the sizes of the catalog's files
```

and at nothing else.  The files of two components stand at two places of the
workspace, so a change of one leaves the preview and the entry of the other.

* `answer_congr` — the table;
* `showsSame_of_sameBut` — the others, where something is done to one component;
* `showsSame_of_differInFile` — the same, where its file is written or removed;
* `answer_dependence` — all of it.
-/

namespace ComponentBrowser

open Component (catalog pathIn)

/-- Two file systems show the same at a path: the same content, or the same
reason why there is none. -/
def FileSystem.SameAt (fs fs' : FileSystem) (p : Path) : Prop :=
  fs'.holds p = fs.holds p ∧ fs'.read p = fs.read p

/-! ## the looks of commands -/

variable {fs fs' : FileSystem} {workspace : Path}

theorem Preview.load_congr {i : Int} (limit : Nat)
    (h : ∀ c, Component.withIndex? i = some c → fs.SameAt fs' (pathIn workspace c.filename)) :
    load fs' workspace i limit = load fs workspace i limit := by
  rw [load, load]
  cases hc : Component.withIndex? i with
  | none => rfl
  | some c =>
      obtain ⟨hholds, hread⟩ := h c hc
      simp only [hholds, hread]

theorem Listing.all_congr (h : ∀ c ∈ catalog, fs'.size? (pathIn workspace c.filename) =
    fs.size? (pathIn workspace c.filename)) : all fs' workspace = all fs workspace := by
  rw [all, all, List.map_inj_left]
  rintro ⟨c, i⟩ hc
  simp only [Listing.of, h c (List.fst_mem_of_mem_zipIdx hc)]

namespace Command

theorem ofArguments_take_two (args : List String) :
    ofArguments (args.take 2) = ofArguments args := by
  match args with
  | [] | [_] => rfl
  | command :: argument :: rest => exact (ofArguments_append command argument rest).symm

theorem ofArguments_of_head?_list {args : List String} (h : args.head? = some "list") :
    ofArguments args = list := by
  obtain ⟨rest, rfl⟩ := List.head?_eq_some_iff.mp h
  exact ofArguments_list rest

/-- Two file systems show a command the same. -/
def SeesSame (fs fs' : FileSystem) (workspace : Path) : Command → Prop
  | usage | prompt _ | unknown _ => True
  | list => ∀ c ∈ catalog, fs'.size? (pathIn workspace c.filename) =
      fs.size? (pathIn workspace c.filename)
  | preview text => ∀ i c, Component.Index.parse text = .ok i → Component.withIndex? i = some c →
      fs.SameAt fs' (pathIn workspace c.filename)

/-- A command depends on nothing else in the file system. -/
theorem answer_congr {s : Settings} {c : Command} (h : c.SeesSame fs fs' s.workspace)
    (json : Bool) : c.answer fs' s json = c.answer fs s json := by
  cases c with
  | usage | prompt | unknown => rfl
  | list => rw [answer, answer, listText, listText, Listing.all_congr h]
  | preview text =>
      have hload : loadPreview fs' s text = loadPreview fs s text := by
        cases hparse : Component.Index.parse text with
        | error e => rw [loadPreview_of_parse_error hparse, loadPreview_of_parse_error hparse]
        | ok i =>
            rw [loadPreview_of_parse hparse, loadPreview_of_parse hparse]
            exact Preview.load_congr _ (h i · hparse)
      rw [answer, answer, hload]

end Command

/-! ## the files of two components -/

theorem Bytes.ofText_injective : Function.Injective Bytes.ofText := by
  intro a b h
  have hread := Bytes.toText?_ofText a
  rwa [h, Bytes.toText?_ofText, Option.some_inj, eq_comm] at hread

namespace Component

/-- The name of a component's file, as the system stores it. -/
def storedName (c : Component) : Bytes := Bytes.ofText c.filename

theorem separator_not_mem_storedName : ∀ c ∈ catalog, Path.separator ∉ c.storedName := by
  decide +kernel

theorem isProper_storedName : ∀ c ∈ catalog, Tree.IsProper c.storedName := by
  unfold Tree.IsProper
  decide +kernel

theorem nodup_filenames : (catalog.map (·.filename)).Nodup := by decide +kernel

theorem storedName_ne {i j : Nat} {hi : i < catalog.length} {hj : j < catalog.length}
    (hne : i ≠ j) : catalog[i].storedName ≠ catalog[j].storedName := by
  intro h
  have hfiles : catalog[i].filename = catalog[j].filename := Bytes.ofText_injective h
  have hsame : catalog[i] = catalog[j] := List.inj_on_of_nodup_map nodup_filenames
    (List.getElem_mem hi) (List.getElem_mem hj) hfiles
  exact hne ((nodup_filenames.of_map _).getElem_inj_iff.mp hsame)

end Component

/-- Where the file of a component stands, in a workspace that is at a place. -/
def Component.placeIn (place : Place) (c : Component) : Place := place ++ [c.storedName]

/-- No component of a workspace is a link, nor is anything else in it. -/
def Tree.HasNoLinks (t : Tree) (place : Place) : Prop :=
  ∀ name target, t.nodeAt (place ++ [name]) ≠ some (.link target)

theorem FileSystem.sameAt_of_entry? {p : Path} (h : fs'.entry? p = fs.entry? p) :
    fs.SameAt fs' p := by
  simp [SameAt, holds, read, h]

namespace Command

/-- Two file systems show a component the same, in a listing and as a preview. -/
def ShowsSame (fs fs' : FileSystem) (s : Settings) (json : Bool) (i : Nat) : Prop :=
  (Listing.all fs' s.workspace)[i]? = (Listing.all fs s.workspace)[i]? ∧
    ∀ text rest, Component.Index.parse text = .ok (i : Int) →
      (ofArguments ("show" :: text :: rest)).answer fs' s json =
        (ofArguments ("show" :: text :: rest)).answer fs s json

theorem answer_show_congr {s : Settings} {text : String} {i : Nat} (hi : i < catalog.length)
    (hparse : Component.Index.parse text = .ok (i : Int))
    (h : fs.SameAt fs' (pathIn s.workspace catalog[i].filename)) (rest : List String)
    (json : Bool) :
    (ofArguments ("show" :: text :: rest)).answer fs' s json =
      (ofArguments ("show" :: text :: rest)).answer fs s json := by
  rw [ofArguments_show]
  refine answer_congr ?_ json
  intro i' c hparse' hc
  rw [hparse] at hparse'
  injection hparse' with hparse'
  rw [← hparse', Component.withIndex?_of_lt hi, Option.some_inj] at hc
  rwa [← hc]

theorem showsSame_of_entry? {s : Settings} (json : Bool) {i : Nat} (hi : i < catalog.length)
    (h : fs'.entry? (pathIn s.workspace catalog[i].filename) =
      fs.entry? (pathIn s.workspace catalog[i].filename)) : ShowsSame fs fs' s json i := by
  constructor
  · simp only [Listing.getElem?_all, List.getElem?_eq_getElem hi, Option.map_some, Listing.of,
      FileSystem.size?, h]
  · intro text rest hparse
    exact answer_show_congr hi hparse (FileSystem.sameAt_of_entry? h) rest json

variable {t t' : Tree} {start place : Place} {s : Settings} {i j : Nat}

/-- Whatever is done to one component or below it, the others are shown the same
as long as the path of the workspace leads there. -/
theorem showsSame_of_sameBut (json : Bool) (hi : i < catalog.length) (hj : j < catalog.length)
    (hne : i ≠ j) (hlinks : t.HasNoLinks place) (hfollow : t.follow? start s.workspace = some place)
    (hfollow' : t'.follow? start s.workspace = some place)
    (h : t.SameBut t' (catalog[j].placeIn place)) :
    ShowsSame (t.seenFrom start) (t'.seenFrom start) s json i := by
  have hmem : catalog[i] ∈ catalog := List.getElem_mem hi
  apply showsSame_of_entry? json hi
  exact Tree.entry?_join_of_sameBut (Component.separator_not_mem_storedName _ hmem)
    (Component.isProper_storedName _ hmem) (Component.storedName_ne hne) (hlinks _) h hfollow
    hfollow'

/-- A file that is written or removed is on the way to no workspace. -/
theorem showsSame_of_differInFile (json : Bool) (hi : i < catalog.length)
    (hj : j < catalog.length) (hne : i ≠ j) (hlinks : t.HasNoLinks place)
    (hfollow : t.follow? start s.workspace = some place)
    (hstart : ¬ catalog[j].placeIn place <+: start)
    (h : t.DifferInFile t' (catalog[j].placeIn place)) :
    ShowsSame (t.seenFrom start) (t'.seenFrom start) s json i := by
  have hplace : place ≠ catalog[j].placeIn place := by simp [Component.placeIn]
  exact showsSame_of_sameBut json hi hj hne hlinks hfollow
    (h.follow?_eq_some hstart hplace hfollow) h.sameBut

/-! ## all of it -/

/-- **What the result of a command depends on.**  Of its arguments, the first
two, or the first for a listing.  Of the file system, nothing for the usage,
prompts, unknown commands and indices without a component; the file of the
component for any other preview; the sizes of the files for a listing.

So in a workspace without links, writing or removing the file of a component
leaves the preview and the entry of another.  The same goes for whatever else is
done there, say to a directory of that name, unless the path of the workspace
itself goes through it and leads elsewhere then. -/
theorem answer_dependence (s : Settings) (json : Bool) :
    (∀ fs args args', List.take 2 args' = List.take 2 args →
      (ofArguments args').answer fs s json = (ofArguments args).answer fs s json) ∧
    (∀ fs args args', args.head? = some "list" → args'.head? = some "list" →
      (ofArguments args').answer fs s json = (ofArguments args).answer fs s json) ∧
    (∀ fs fs' args,
      (args = [] ∨ (∃ topic rest, args = "prompt" :: topic :: rest) ∨
        (∃ token rest, args = token :: rest ∧ Unrecognized token rest) ∨
        (∃ text rest, args = "show" :: text :: rest ∧
          ∀ i, Component.Index.parse text = .ok i → ¬ (0 ≤ i ∧ i < catalog.length))) →
      (ofArguments args).answer fs' s json = (ofArguments args).answer fs s json) ∧
    (∀ fs fs' text rest (i : Nat) (hi : i < catalog.length),
      Component.Index.parse text = .ok (i : Int) →
      fs.SameAt fs' (pathIn s.workspace catalog[i].filename) →
      (ofArguments ("show" :: text :: rest)).answer fs' s json =
        (ofArguments ("show" :: text :: rest)).answer fs s json) ∧
    (∀ fs fs' rest,
      (∀ c ∈ catalog, fs'.size? (pathIn s.workspace c.filename) =
        fs.size? (pathIn s.workspace c.filename)) →
      (ofArguments ("list" :: rest)).answer fs' s json =
        (ofArguments ("list" :: rest)).answer fs s json) ∧
    ∀ (t : Tree) (start place : Place) (i j : Nat) (_ : i < catalog.length)
      (hj : j < catalog.length), i ≠ j → t.HasNoLinks place →
      t.follow? start s.workspace = some place →
      let file := catalog[j].placeIn place
      (t.AtMostFile file → ¬ file <+: start →
        ShowsSame (t.seenFrom start) ((t.erase file).seenFrom start) s json i ∧
        ∀ content, ShowsSame (t.seenFrom start)
          (((t.erase file).put file (.file content)).seenFrom start) s json i) ∧
      ∀ t', t.SameBut t' file → t'.follow? start s.workspace = some place →
        ShowsSame (t.seenFrom start) (t'.seenFrom start) s json i := by
  refine ⟨?_, ?_, ?_, ?_, ?_, ?_⟩
  · intro fs args args' h
    rw [← ofArguments_take_two args', h, ofArguments_take_two]
  · intro fs args args' h h'
    rw [ofArguments_of_head?_list h, ofArguments_of_head?_list h']
  · rintro fs fs' args (rfl | ⟨topic, rest, rfl⟩ | ⟨token, rest, rfl, h⟩ | ⟨text, rest, rfl, h⟩)
    · rfl
    · rw [ofArguments_prompt]
      rfl
    · rw [ofArguments_of_unrecognized h]
      rfl
    · rw [ofArguments_show]
      refine answer_congr ?_ json
      intro i c hparse hc
      -- there is no such component
      exact absurd ((Component.isSome_withIndex?_iff i).mp (by simp [hc])) (h i hparse)
  · intro fs fs' text rest i hi hparse h
    exact answer_show_congr hi hparse h rest json
  · intro fs fs' rest h
    rw [ofArguments_list]
    exact answer_congr (c := list) h json
  · intro t start place i j hi hj hne hlinks hfollow file
    have hroot : file ≠ [] := by simp [file, Component.placeIn]
    refine ⟨fun hfile hstart => ⟨?_, fun content => ?_⟩, fun t' h hfollow' => ?_⟩
    · exact showsSame_of_differInFile json hi hj hne hlinks hfollow hstart
        (Tree.differInFile_erase hroot hfile)
    · exact showsSame_of_differInFile json hi hj hne hlinks hfollow hstart
        (Tree.differInFile_put hroot hfile)
    · exact showsSame_of_sameBut json hi hj hne hlinks hfollow hfollow' h

/-- A workspace with two components and no links. -/
def plainWorkspace : Tree :=
  let here := fun name => [Bytes.ofText "w", Bytes.ofText name]
  ((Tree.empty.put [Bytes.ofText "w"] (.directory 4096)).put
    (here "00_COMPONENT_OVERVIEW.txt") (.file [0x61])).put
    (here "01_page_management.txt") (.file [0x62])

/-- Of the two components, one is removed and another one written. -/
theorem answer_dependence_plain :
    let s : Settings := ⟨Path.ofText "w/.", none, none, false, false, 5⟩
    let file := catalog[2].placeIn [Bytes.ofText "w"]
    plainWorkspace.HasNoLinks [Bytes.ofText "w"] ∧
      plainWorkspace.follow? [] s.workspace = some [Bytes.ofText "w"] ∧
      plainWorkspace.nodeAt file = some (.file [0x62]) ∧
      ShowsSame (plainWorkspace.seenFrom []) ((plainWorkspace.erase file).seenFrom []) s true 0 ∧
      ShowsSame (plainWorkspace.seenFrom [])
        (((plainWorkspace.erase file).put file (.file [0x63])).seenFrom []) s true 0 ∧
      (ofArguments ["show", " 0 "]).answer (plainWorkspace.seenFrom []) s true =
        (ofArguments ["show", " 0 ", "x"]).answer (plainWorkspace.seenFrom []) s true ∧
      (ofArguments ["show", "22"]).answer (plainWorkspace.seenFrom []) s true =
        (ofArguments ["show", "22"]).answer (Tree.empty.seenFrom []) s true := by
  intro s file
  have hlinks : plainWorkspace.HasNoLinks [Bytes.ofText "w"] := by
    intro name target
    simp only [plainWorkspace, Tree.put, Tree.empty]
    repeat' split
    all_goals simp
  have hfollow : plainWorkspace.follow? [] s.workspace = some [Bytes.ofText "w"] := by
    decide +kernel
  have hnode : plainWorkspace.nodeAt file = some (.file [0x62]) := by decide +kernel
  have hfile : plainWorkspace.AtMostFile file := by
    intro node h
    rw [hnode] at h
    injection h with h
    exact ⟨_, h.symm⟩
  obtain ⟨htake, -, hnothing, -, -, hlocal⟩ := answer_dependence s true
  obtain ⟨hchanges, -⟩ := hlocal plainWorkspace [] [Bytes.ofText "w"] 0 2 (by decide) (by decide)
    (by decide) hlinks hfollow
  obtain ⟨hremoved, hwritten⟩ := hchanges hfile (by simp [Component.placeIn])
  refine ⟨hlinks, hfollow, hnode, hremoved, hwritten _, htake _ _ _ rfl, ?_⟩
  refine hnothing _ _ _ (.inr (.inr (.inr ⟨"22", [], rfl, ?_⟩)))
  intro i hi
  have hparse : Component.Index.parse "22" = .ok 22 := rfl
  rw [hparse] at hi
  injection hi with hi
  subst hi
  decide

end Command

end ComponentBrowser
