import ComponentBrowser.Proofs.Text.Utf8
import ComponentBrowser.Settings.Load

/-!
# ComponentBrowser.Proofs.Settings.Layers

What loading settings amounts to: four layers, each of which speaks where the
ones above it are silent.

```
command line  >  environment  >  settings file  >  defaults
```

`Settings.load` lays them over each other from the bottom up, and looks at the
workspace twice on the way.  `layered` names the outcome field by field, and
`load_eq` says that loading looks at the workspace, finds the settings file,
reads it and validates what the layers make of it, in this order.

* `exists_variables` — the environment can say anything about the settings;
* `load_eq_ok_iff` — when loading succeeds, and with which settings;
* `effective_of_load` — where each of the loaded settings comes from.
-/

namespace ComponentBrowser

/-- A computation in two steps succeeds exactly when both steps do. -/
theorem bind_eq_ok_iff {ε α β : Type} (x : Except ε α) (f : α → Except ε β) (b : β) :
    (x >>= f) = .ok b ↔ ∃ a, x = .ok a ∧ f a = .ok b := by
  cases x <;> simp [bind, Except.bind]

theorem map_eq_ok_iff {ε α β : Type} (x : Except ε α) (f : α → β) (b : β) :
    x.map f = .ok b ↔ ∃ a, x = .ok a ∧ f a = b := by
  cases x <;> simp [Except.map]

namespace Settings

/-! ## the pieces of a load -/

/-- The workspace that is settled first, before any file is read. -/
def startWorkspace (fs : FileSystem) (v : Variables) (o : Overrides) : Path :=
  (o.workspace? <|> v.workspace?.map Path.mk).getD fs.currentDirectory

/-- The settings file that is asked for by name. -/
def namedFile? (v : Variables) (o : Overrides) : Option Path :=
  o.configFile? <|> v.configFile?.map Path.mk

/-- The settings file that a workspace holds, if it is a regular file. -/
def heldFile? (fs : FileSystem) (workspace : Path) : Option Path :=
  let file := workspace.join (Path.ofText fileName)
  if fs.isFile file then some file else none

/-- The settings file of a run.  It is told without reading any file. -/
def chosenFile? (fs : FileSystem) (v : Variables) (o : Overrides) : Option Path :=
  namedFile? v o <|> heldFile? fs (startWorkspace fs v o)

/-- What the settings file says; without one, nothing. -/
def fileSettings (fs : FileSystem) : Option Path → Except SettingsFault FileSettings
  | none => .ok {}
  | some file => readFile fs file

/-- The settings that the layers make together. -/
def layered (fs : FileSystem) (v : Variables) (o : Overrides) (file? : Option Path)
    (f : FileSettings) : Settings where
  workspace := (o.workspace? <|> v.workspace?.map Path.mk <|>
    f.workspace?.map Path.ofText).getD fs.currentDirectory
  configFile? := file?
  logLevel? := o.logLevel? <|> v.logLevel? <|> f.level? <|>
    if o.verbose then some verboseLevel else none
  verbose := o.verbose
  noColor := o.noColor || v.noColor?.isSome || f.color? == some false
  previewChars := f.previewChars?.getD defaultPreviewChars

/-- Whatever a layer may say about the settings, some environment says it. -/
theorem exists_variables (workspace? file? : Option Path) (level? : Option String)
    (noColor : Bool) :
    ∃ v : Variables, v.workspace?.map Path.mk = workspace? ∧ v.configFile?.map Path.mk = file? ∧
      v.logLevel? = level? ∧ v.noColor?.isSome = noColor := by
  refine ⟨⟨workspace?.map Path.bytes, file?.map Path.bytes, level?.map Bytes.ofText,
    if noColor then some [] else none⟩, ?_, ?_, ?_, ?_⟩
  · cases workspace? <;> rfl
  · cases file? <;> rfl
  · cases level? with
    | none => rfl
    | some level => exact Bytes.toText?_ofText level
  · cases noColor <;> rfl

/-! ## finding the file -/

theorem findFile?_some (fs : FileSystem) (workspace file : Path) :
    findFile? fs workspace (some file) =
      if fs.isFile file then .ok (some file) else .error (.fileMissing file) := rfl

theorem findFile?_none (fs : FileSystem) (workspace : Path) :
    findFile? fs workspace none = .ok (heldFile? fs workspace) := rfl

/-- A file that is found is the one that was named, or else the one that the
workspace holds. -/
theorem eq_of_findFile? {fs : FileSystem} {workspace : Path} {named? file? : Option Path}
    (h : findFile? fs workspace named? = .ok file?) :
    file? = (named? <|> heldFile? fs workspace) := by
  cases named? with
  | none =>
      rw [findFile?_none] at h
      injection h with h
      exact h.symm
  | some file =>
      rw [findFile?_some] at h
      split at h
      · injection h with h
        exact h.symm
      · contradiction

/-- The file is found unless one is named that is not there. -/
theorem findFile?_eq_ok_iff (fs : FileSystem) (workspace : Path) (named? file? : Option Path) :
    findFile? fs workspace named? = .ok file? ↔
      (∀ file ∈ named?, fs.isFile file = true) ∧ file? = (named? <|> heldFile? fs workspace) := by
  constructor
  · intro h
    refine ⟨?_, eq_of_findFile? h⟩
    rintro file rfl
    rw [findFile?_some] at h
    split at h
    · assumption
    · contradiction
  · rintro ⟨hfile, rfl⟩
    cases named? with
    | none => rw [findFile?_none]; rfl
    | some file => rw [findFile?_some, if_pos (hfile file rfl)]; rfl

/-! ## laying the layers over each other -/

/-- The layers, laid over each other one by one from the defaults up. -/
def stacked (fs : FileSystem) (v : Variables) (o : Overrides) (file? : Option Path)
    (f : FileSettings) : Settings :=
  let bottom := { initial fs with workspace := startWorkspace fs v o }
  ({ bottom.withFile f with configFile? := file? }.withVariables v).withOverrides o

/-- Laying the layers over each other makes the settings that `layered`
names, where no other file is named than the one that was found. -/
theorem stacked_eq_layered (fs : FileSystem) (v : Variables) (o : Overrides)
    {file? : Option Path} (f : FileSettings) (hfile : (o.configFile? <|> file?) = file?) :
    stacked fs v o file? f = layered fs v o file? f := by
  have hworkspace : o.workspace?.getD ((v.workspace?.map Path.mk).getD
      ((f.workspace?.map Path.ofText).getD (startWorkspace fs v o))) =
        (layered fs v o file? f).workspace := by
    unfold startWorkspace layered
    cases o.workspace? <;> cases v.workspace? <;> cases f.workspace? <;> rfl
  have hlevel : (if o.verbose then
      some ((o.logLevel? <|> v.logLevel? <|> f.level? <|> none).getD verboseLevel)
      else (o.logLevel? <|> v.logLevel? <|> f.level? <|> none)) =
        (layered fs v o file? f).logLevel? := by
    unfold layered
    cases o.verbose <;> cases o.logLevel? <;> cases v.logLevel? <;> cases f.level? <;> rfl
  have hcolor : (o.noColor || (v.noColor?.isSome || (f.color?.map not).getD false)) =
      (layered fs v o file? f).noColor := by
    unfold layered
    rw [Bool.or_assoc]
    cases f.color? with
    | none => rfl
    | some color => cases color <;> rfl
  simp only [stacked, withOverrides, withVariables, withFile, initial, Bool.or_false,
    hworkspace, hlevel, hcolor, hfile]
  rfl

/-- Loading looks at the workspace, finds the settings file, reads it, and
validates what the layers make of it. -/
theorem load_eq (fs : FileSystem) (v : Variables) (o : Overrides) :
    load fs v o =
      if fs.isDirectory (startWorkspace fs v o) = true then do
        let file? ← findFile? fs (startWorkspace fs v o) (namedFile? v o)
        let f ← fileSettings fs file?
        (layered fs v o file? f).validate fs
        pure (layered fs v o file? f)
      else .error (.workspaceMissing (startWorkspace fs v o)) := by
  rw [load]
  change (if !fs.isDirectory (startWorkspace fs v o) then _ else _) = _
  cases fs.isDirectory (startWorkspace fs v o) with
  | false => rfl
  | true =>
      change Except.bind (findFile? fs (startWorkspace fs v o) (namedFile? v o)) _ =
        Except.bind (findFile? fs (startWorkspace fs v o) (namedFile? v o)) _
      cases hfind : findFile? fs (startWorkspace fs v o) (namedFile? v o) with
      | error fault => rfl
      | ok file? =>
          have hfile : (o.configFile? <|> file?) = file? := by
            rw [eq_of_findFile? hfind, namedFile?]
            cases o.configFile? <;> rfl
          have hstacked := fun f => stacked_eq_layered fs v o f hfile
          cases file? with
          | none =>
              change (do (stacked fs v o none {}).validate fs; pure (stacked fs v o none {})) = _
              rw [hstacked]
              rfl
          | some file =>
              change Except.bind ((readFile fs file).map _) _ = Except.bind (readFile fs file) _
              cases readFile fs file with
              | error fault => rfl
              | ok f =>
                  change (do
                    (stacked fs v o (some file) f).validate fs
                    pure (stacked fs v o (some file) f)) = _
                  rw [hstacked]
                  rfl

/-- Loading succeeds with the layered settings when the workspace is there, no
file is named that is not, the file can be read, and the outcome is valid. -/
theorem load_eq_ok_iff (fs : FileSystem) (v : Variables) (o : Overrides) (s : Settings) :
    load fs v o = .ok s ↔
      fs.isDirectory (startWorkspace fs v o) = true ∧
      (∀ file ∈ namedFile? v o, fs.isFile file = true) ∧
      ∃ f, fileSettings fs (chosenFile? fs v o) = .ok f ∧
        s = layered fs v o (chosenFile? fs v o) f ∧ s.validate fs = .ok () := by
  rw [load_eq]
  by_cases hdir : fs.isDirectory (startWorkspace fs v o) = true
  · rw [if_pos hdir]
    simp only [bind_eq_ok_iff, findFile?_eq_ok_iff, pure, Except.pure, Except.ok.injEq]
    constructor
    · rintro ⟨_, ⟨hnamed, rfl⟩, f, hf, _, hvalid, rfl⟩
      exact ⟨hdir, hnamed, f, hf, rfl, hvalid⟩
    · rintro ⟨_, hnamed, f, hf, rfl, hvalid⟩
      exact ⟨_, ⟨hnamed, rfl⟩, f, hf, (), hvalid, rfl⟩
  · rw [if_neg hdir]
    constructor
    · intro h
      contradiction
    · rintro ⟨h, -⟩
      exact absurd h hdir

/-! ## where loaded settings come from -/

/-- Which settings file is chosen depends on what stands where, and on the
content of no file. -/
theorem chosenFile?_congr {fs fs' : FileSystem} (v : Variables) (o : Overrides)
    (hdir : fs'.currentDirectory = fs.currentDirectory)
    (hfile : ∀ p, fs'.isFile p = fs.isFile p) :
    chosenFile? fs' v o = chosenFile? fs v o := by
  have hstart : startWorkspace fs' v o = startWorkspace fs v o := by
    rw [startWorkspace, startWorkspace, hdir]
  rw [chosenFile?, chosenFile?, hstart, heldFile?, heldFile?, hfile]

/-- **Where loaded settings come from**: each of them is what the highest
layer that speaks says, and the file that speaks is the one chosen before any
file was read. -/
theorem effective_of_load {fs : FileSystem} {v : Variables} {o : Overrides} {s : Settings}
    (h : load fs v o = .ok s) :
    ∃ f, fileSettings fs (chosenFile? fs v o) = .ok f ∧
      s.workspace = (o.workspace? <|> v.workspace?.map Path.mk <|>
        f.workspace?.map Path.ofText).getD fs.currentDirectory ∧
      s.configFile? = chosenFile? fs v o ∧
      s.logLevel? = (o.logLevel? <|> v.logLevel? <|> f.level? <|>
        if o.verbose then some "debug" else none) ∧
      s.verbose = o.verbose ∧
      s.noColor = (o.noColor || v.noColor?.isSome || f.color? == some false) ∧
      s.previewChars = f.previewChars?.getD 5000 ∧
      ∀ fs' s', fs'.currentDirectory = fs.currentDirectory →
        (∀ p, fs'.isFile p = fs.isFile p) → load fs' v o = .ok s' →
          s'.configFile? = s.configFile? := by
  obtain ⟨-, -, f, hf, rfl, -⟩ := (load_eq_ok_iff fs v o s).mp h
  refine ⟨f, hf, rfl, rfl, rfl, rfl, rfl, rfl, ?_⟩
  intro fs' s' hdir hfile h'
  obtain ⟨-, -, f', -, rfl, -⟩ := (load_eq_ok_iff fs' v o s').mp h'
  exact chosenFile?_congr v o hdir hfile

/-- A file system whose settings file names another workspace, which holds a
settings file of its own. -/
def relocated : FileSystem where
  currentDirectory := Path.ofText "/a"
  entry? p :=
    [(Path.ofText "/a", .directory 4096),
     (Path.ofText "/a/.analyze-components.yaml",
      .file (Bytes.ofText "workspace: \x7bpath: /b\x7d\n")),
     (Path.ofText "/b", .directory 4096),
     (Path.ofText "/b/.analyze-components.yaml",
      .file (Bytes.ofText "preview: \x7bchars: 7\x7d\n"))].lookup p

/-- The other workspace is used, and the settings file in it is not read. -/
theorem effective_of_load_relocated :
    ∃ s f, load relocated {} { verbose := true } = .ok s ∧
      fileSettings relocated (some (Path.ofText "/a/.analyze-components.yaml")) = .ok f ∧
      s.workspace = (f.workspace?.map Path.ofText).getD (Path.ofText "/a") ∧
      s.workspace = Path.ofText "/b" ∧
      s.configFile? = some (Path.ofText "/a/.analyze-components.yaml") ∧
      s.previewChars = f.previewChars?.getD 5000 := by
  have h : load relocated {} { verbose := true } =
      .ok ⟨Path.ofText "/b", some (Path.ofText "/a/.analyze-components.yaml"), some "debug",
        true, false, 5000⟩ := by rfl
  obtain ⟨f, hf, hworkspace, hfile, -, -, -, hchars, -⟩ := effective_of_load h
  exact ⟨_, f, h, hf, hworkspace, rfl, hfile, hchars⟩

end Settings

end ComponentBrowser
