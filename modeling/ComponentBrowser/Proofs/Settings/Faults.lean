import ComponentBrowser.Proofs.Run.Streams
import ComponentBrowser.Proofs.Settings.Pinned

/-!
# ComponentBrowser.Proofs.Settings.Faults

When settings do not load, and which fault is reported.

Loading makes six checks.  `Finds` says what each of them finds wrong, and says
it of the files and the layers alone: no check is about what another one has
found, and several of them may find something.  Loading fails exactly when one
does, and the fault that is reported is that of the first.

* `passes_of_load` — where settings load, no check finds a fault;
* `isFirstFault_of_load` — where they do not, the first fault is reported;
* `IsFirstFault.eq` — and there is no other;
* `load_first_fault` — hence when loading fails, with what, and in which words.
-/

namespace ComponentBrowser.Settings

/-! ## the checks -/

/-- What is checked. -/
inductive Check where
  /-- The workspace to start from is a directory. -/
  | start
  /-- The settings file that is named is a regular file. -/
  | named
  /-- The settings file can be read, and is text. -/
  | text
  /-- The text says settings. -/
  | content
  /-- Previews have room for a character. -/
  | preview
  /-- The workspace that is settled on is a directory. -/
  | workspace
  deriving DecidableEq

/-- The place of a check in the order in which they are made. -/
def Check.rank : Check → Nat
  | start => 1
  | named => 2
  | text => 3
  | content => 4
  | preview => 5
  | workspace => 6

/-- The text of a file. -/
def fileText (fs : FileSystem) (file : Path) : Except TextFault String :=
  match fs.read file with
  | .error cause => .error (.unread cause)
  | .ok content =>
    match content.toText? with
    | none => .error .notText
    | some text => .ok text

theorem readFile_eq (fs : FileSystem) (file : Path) :
    readFile fs file =
      match fileText fs file with
      | .error cause => .error (.fileUnreadable file cause)
      | .ok text =>
        match FileSettings.parse text with
        | .ok f => .ok f
        | .error fault => .error (.fileUnparsable file fault.message) := by
  unfold readFile fileText
  cases fs.read file with
  | error cause => rfl
  | ok content =>
      simp only
      cases content.toText? with
      | none => rfl
      | some text => rfl

variable {fs : FileSystem} {v : Variables} {o : Overrides}

/-- What a check finds wrong. -/
inductive Finds (fs : FileSystem) (v : Variables) (o : Overrides) : Check → SettingsFault → Prop
  | start (h : fs.isDirectory (startWorkspace fs v o) = false) :
      Finds fs v o .start (.workspaceMissing (startWorkspace fs v o))
  | named {file : Path} (hfile : namedFile? v o = some file) (h : fs.isFile file = false) :
      Finds fs v o .named (.fileMissing file)
  | text {file : Path} {cause : TextFault} (hfile : chosenFile? fs v o = some file)
      (h : fileText fs file = .error cause) :
      Finds fs v o .text (.fileUnreadable file cause)
  | content {file : Path} {text : String} {fault : Yaml.Fault}
      (hfile : chosenFile? fs v o = some file) (htext : fileText fs file = .ok text)
      (h : FileSettings.parse text = .error fault) :
      Finds fs v o .content (.fileUnparsable file fault.message)
  | preview {f : FileSettings} (hf : fileSettings fs (chosenFile? fs v o) = .ok f)
      (h : (layered fs v o (chosenFile? fs v o) f).previewChars = 0) :
      Finds fs v o .preview .emptyPreview
  | workspace {f : FileSettings} (hf : fileSettings fs (chosenFile? fs v o) = .ok f)
      (h : fs.isDirectory (layered fs v o (chosenFile? fs v o) f).workspace = false) :
      Finds fs v o .workspace
        (.workspaceMissing (layered fs v o (chosenFile? fs v o) f).workspace)

/-- A check that finds nothing wrong. -/
def Passes (fs : FileSystem) (v : Variables) (o : Overrides) (check : Check) : Prop :=
  ∀ fault, ¬Finds fs v o check fault

/-- All checks before one pass. -/
def PassesBefore (fs : FileSystem) (v : Variables) (o : Overrides) (check : Check) : Prop :=
  ∀ earlier : Check, earlier.rank < check.rank → Passes fs v o earlier

/-- A fault that one check finds, where all before it pass. -/
def IsFirstFault (fs : FileSystem) (v : Variables) (o : Overrides) (fault : SettingsFault) : Prop :=
  ∃ check, Finds fs v o check fault ∧ PassesBefore fs v o check

theorem Check.eq_of_rank_eq {check check' : Check} (h : check.rank = check'.rank) :
    check = check' := by
  cases check <;> cases check' <;> first | rfl | contradiction

theorem passesBefore_start : PassesBefore fs v o .start := by
  intro earlier hlt
  cases earlier <;> contradiction

/-- Once a check passes, it is the turn of the next. -/
theorem PassesBefore.next {check next : Check} (h : PassesBefore fs v o check)
    (hpasses : Passes fs v o check) (hnext : next.rank = check.rank + 1) :
    PassesBefore fs v o next := by
  intro earlier hlt
  obtain hlt | heq : earlier.rank < check.rank ∨ earlier.rank = check.rank := by omega
  · exact h earlier hlt
  · rwa [Check.eq_of_rank_eq heq]

/-- A check finds one fault at most. -/
theorem Finds.eq {check : Check} {fault fault' : SettingsFault} (h : Finds fs v o check fault)
    (h' : Finds fs v o check fault') : fault = fault' := by
  -- twice the same check is about the same file, the same text and the same settings
  cases h <;> cases h' <;> grind

/-- There is one first fault at most. -/
theorem IsFirstFault.eq {fault fault' : SettingsFault} (h : IsFirstFault fs v o fault)
    (h' : IsFirstFault fs v o fault') : fault = fault' := by
  obtain ⟨check, hfinds, hbefore⟩ := h
  obtain ⟨check', hfinds', hbefore'⟩ := h'
  -- neither check comes before the other, as it would have to pass then
  have hle : check'.rank ≤ check.rank :=
    Nat.le_of_not_lt fun hlt => hbefore' check hlt fault hfinds
  have hge : check.rank ≤ check'.rank :=
    Nat.le_of_not_lt fun hlt => hbefore check' hlt fault' hfinds'
  have hcheck : check = check' := Check.eq_of_rank_eq (Nat.le_antisymm hge hle)
  subst hcheck
  exact hfinds.eq hfinds'

/-! ## passing the checks -/

theorem passes_start (h : fs.isDirectory (startWorkspace fs v o) = true) :
    Passes fs v o .start := by
  rintro _ ⟨hmissing⟩
  simp [h] at hmissing

theorem passes_named (h : ∀ file ∈ namedFile? v o, fs.isFile file = true) :
    Passes fs v o .named := by
  intro fault hfinds
  cases hfinds with
  | named hfile hmissing => simp [h _ hfile] at hmissing

/-- Where the settings file says something, it can be read and is well formed. -/
theorem passes_of_fileSettings {f : FileSettings}
    (hf : fileSettings fs (chosenFile? fs v o) = .ok f) :
    Passes fs v o .text ∧ Passes fs v o .content := by
  constructor
  · intro fault hfinds
    cases hfinds with
    | text hfile h => simp [hfile, fileSettings, readFile_eq, h] at hf
  · intro fault hfinds
    cases hfinds with
    | content hfile htext h =>
        simp [hfile, fileSettings, readFile_eq, htext, h] at hf

/-- Where the settings file says nothing, one of the two checks finds out. -/
theorem finds_of_fileSettings {fault : SettingsFault}
    (hf : fileSettings fs (chosenFile? fs v o) = .error fault) :
    Finds fs v o .text fault ∨ Passes fs v o .text ∧ Finds fs v o .content fault := by
  cases hfile : chosenFile? fs v o with
  | none => simp [hfile, fileSettings] at hf
  | some file =>
      rw [hfile, fileSettings, readFile_eq] at hf
      cases htext : fileText fs file with
      | error cause =>
          simp only [htext, Except.error.injEq] at hf
          exact .inl (hf ▸ .text hfile htext)
      | ok text =>
          have hpasses : Passes fs v o .text := by
            intro fault hfinds
            cases hfinds with
            | text hfile' h => grind
          cases hparse : FileSettings.parse text with
          | ok f => simp [htext, hparse] at hf
          | error cause =>
              simp only [htext, hparse, Except.error.injEq] at hf
              exact .inr ⟨hpasses, hf ▸ .content hfile htext hparse⟩

theorem passes_preview {f : FileSettings} (hf : fileSettings fs (chosenFile? fs v o) = .ok f)
    (h : (layered fs v o (chosenFile? fs v o) f).previewChars ≠ 0) : Passes fs v o .preview := by
  intro fault hfinds
  cases hfinds with
  | preview hf' hzero =>
      cases hf.symm.trans hf'
      exact h hzero

theorem passes_workspace {f : FileSettings} (hf : fileSettings fs (chosenFile? fs v o) = .ok f)
    (h : fs.isDirectory (layered fs v o (chosenFile? fs v o) f).workspace = true) :
    Passes fs v o .workspace := by
  intro fault hfinds
  cases hfinds with
  | workspace hf' hmissing =>
      cases hf.symm.trans hf'
      simp [h] at hmissing

theorem passesBefore_text (hstart : fs.isDirectory (startWorkspace fs v o) = true)
    (hnamed : ∀ file ∈ namedFile? v o, fs.isFile file = true) : PassesBefore fs v o .text :=
  (passesBefore_start.next (passes_start hstart) rfl).next (passes_named hnamed) rfl

theorem PassesBefore.preview (h : PassesBefore fs v o .text) {f : FileSettings}
    (hf : fileSettings fs (chosenFile? fs v o) = .ok f) : PassesBefore fs v o .preview :=
  (h.next (passes_of_fileSettings hf).1 rfl).next (passes_of_fileSettings hf).2 rfl

/-! ## loading, check by check -/

theorem load_of_start_missing (h : fs.isDirectory (startWorkspace fs v o) = false) :
    load fs v o = .error (.workspaceMissing (startWorkspace fs v o)) := by
  rw [load_eq, if_neg (by simp [h])]

theorem load_of_named_missing (hstart : fs.isDirectory (startWorkspace fs v o) = true)
    {file : Path} (hfile : namedFile? v o = some file) (h : fs.isFile file = false) :
    load fs v o = .error (.fileMissing file) := by
  have hfind : findFile? fs (startWorkspace fs v o) (some file) = .error (.fileMissing file) := by
    rw [findFile?_some, if_neg (by simp [h])]
  rw [load_eq, if_pos hstart, hfile, hfind]
  rfl

/-- Past the first two checks, the settings file is read and what the layers
make of it is validated. -/
theorem load_of_found (hstart : fs.isDirectory (startWorkspace fs v o) = true)
    (hnamed : ∀ file ∈ namedFile? v o, fs.isFile file = true) :
    load fs v o = (fileSettings fs (chosenFile? fs v o)).bind fun f =>
      ((layered fs v o (chosenFile? fs v o) f).validate fs).map fun _ =>
        layered fs v o (chosenFile? fs v o) f := by
  have hfind : findFile? fs (startWorkspace fs v o) (namedFile? v o) =
      .ok (chosenFile? fs v o) := (findFile?_eq_ok_iff _ _ _ _).mpr ⟨hnamed, rfl⟩
  rw [load_eq, if_pos hstart, hfind]
  rfl

theorem validate_eq_error_iff (fs : FileSystem) (s : Settings) (fault : SettingsFault) :
    s.validate fs = .error fault ↔
      s.previewChars = 0 ∧ fault = .emptyPreview ∨
      s.previewChars ≠ 0 ∧ fs.isDirectory s.workspace = false ∧
        fault = .workspaceMissing s.workspace := by
  unfold validate
  by_cases hchars : s.previewChars = 0
  · grind
  · cases hdir : fs.isDirectory s.workspace <;> grind

/-- A load that succeeds has passed all checks. -/
theorem passes_of_load {s : Settings} (h : load fs v o = .ok s) (check : Check) :
    Passes fs v o check := by
  obtain ⟨hstart, hnamed, f, hf, hs, hvalid⟩ := (load_eq_ok_iff fs v o s).mp h
  subst hs
  obtain ⟨hchars, hdir⟩ := (validate_eq_ok_iff fs _).mp hvalid
  cases check with
  | start => exact passes_start hstart
  | named => exact passes_named hnamed
  | text => exact (passes_of_fileSettings hf).1
  | content => exact (passes_of_fileSettings hf).2
  | preview => exact passes_preview hf (Nat.pos_iff_ne_zero.mp hchars)
  | workspace => exact passes_workspace hf hdir

/-- What is wrong with the outcome is found by the last two checks. -/
theorem isFirstFault_of_validate (hbefore : PassesBefore fs v o .text) {f : FileSettings}
    (hf : fileSettings fs (chosenFile? fs v o) = .ok f) {fault : SettingsFault}
    (h : (layered fs v o (chosenFile? fs v o) f).validate fs = .error fault) :
    IsFirstFault fs v o fault := by
  have hpreview : PassesBefore fs v o .preview := hbefore.preview hf
  obtain ⟨hzero, rfl⟩ | ⟨hchars, hmissing, rfl⟩ := (validate_eq_error_iff fs _ fault).mp h
  · exact ⟨.preview, .preview hf hzero, hpreview⟩
  · exact ⟨.workspace, .workspace hf hmissing, hpreview.next (passes_preview hf hchars) rfl⟩

/-- What is wrong with the settings file is found by the two checks of it. -/
theorem isFirstFault_of_fileSettings (hbefore : PassesBefore fs v o .text) {fault : SettingsFault}
    (h : fileSettings fs (chosenFile? fs v o) = .error fault) : IsFirstFault fs v o fault := by
  obtain hfinds | ⟨htext, hfinds⟩ := finds_of_fileSettings h
  · exact ⟨.text, hfinds, hbefore⟩
  · exact ⟨.content, hfinds, hbefore.next htext rfl⟩

/-- A load that fails reports the first fault. -/
theorem isFirstFault_of_load {fault : SettingsFault} (h : load fs v o = .error fault) :
    IsFirstFault fs v o fault := by
  cases hstart : fs.isDirectory (startWorkspace fs v o) with
  | false =>
      rw [load_of_start_missing hstart] at h
      cases h
      exact ⟨.start, .start hstart, passesBefore_start⟩
  | true =>
      by_cases hnamed : ∀ file ∈ namedFile? v o, fs.isFile file = true
      · have htext : PassesBefore fs v o .text := passesBefore_text hstart hnamed
        rw [load_of_found hstart hnamed] at h
        cases hf : fileSettings fs (chosenFile? fs v o) with
        | error cause =>
            rw [hf] at h
            cases h
            exact isFirstFault_of_fileSettings htext hf
        | ok f =>
            rw [hf] at h
            cases hvalid : (layered fs v o (chosenFile? fs v o) f).validate fs with
            | ok _ => simp [Except.bind, hvalid, Except.map] at h
            | error cause =>
                simp only [Except.bind, hvalid, Except.map, Except.error.injEq] at h
                exact isFirstFault_of_validate htext hf (h ▸ hvalid)
      · obtain ⟨file, hfile, hmissing⟩ : ∃ file, namedFile? v o = some file ∧
            fs.isFile file = false := by simpa using hnamed
        rw [load_of_named_missing hstart hfile hmissing] at h
        cases h
        exact ⟨.named, .named hfile hmissing, passesBefore_start.next (passes_start hstart) rfl⟩

/-- Loading fails with the first fault, and with no other. -/
theorem load_eq_error_iff (fs : FileSystem) (v : Variables) (o : Overrides)
    (fault : SettingsFault) : load fs v o = .error fault ↔ IsFirstFault fs v o fault := by
  refine ⟨isFirstFault_of_load, fun h => ?_⟩
  cases hload : load fs v o with
  | error fault' => rw [(isFirstFault_of_load hload).eq h]
  | ok s =>
      obtain ⟨check, hfinds, -⟩ := h
      exact absurd hfinds (passes_of_load hload check fault)

/-- Loading fails where any check finds a fault. -/
theorem exists_load_eq_error_iff (fs : FileSystem) (v : Variables) (o : Overrides) :
    (∃ fault, load fs v o = .error fault) ↔ ∃ check fault, Finds fs v o check fault := by
  constructor
  · rintro ⟨fault, h⟩
    obtain ⟨check, hfinds, -⟩ := isFirstFault_of_load h
    exact ⟨check, fault, hfinds⟩
  · rintro ⟨check, fault, hfinds⟩
    cases hload : load fs v o with
    | error fault' => exact ⟨fault', rfl⟩
    | ok s => exact absurd hfinds (passes_of_load hload check fault)

/-! ## the report -/

/-- What a check that finds something says. -/
def Check.Says (fs : FileSystem) (v : Variables) (o : Overrides) : Check → String → Prop
  | start, said =>
    said = "Workspace directory does not exist: " ++ (startWorkspace fs v o).quoted
  | named, said => ∃ file ∈ namedFile? v o, said = "Config file not found: " ++ file.quoted
  | text, said => ∃ file ∈ chosenFile? fs v o, ∃ cause : TextFault,
    said = "Failed to read config file " ++ file.quoted ++ ": " ++ cause.message
  | content, said => ∃ file ∈ chosenFile? fs v o, ∃ cause : Yaml.Fault,
    said = "Failed to parse config file " ++ file.quoted ++ ": " ++ cause.message
  | preview, said => said = "preview.chars must be greater than zero"
  | workspace, said => ∃ f, fileSettings fs (chosenFile? fs v o) = .ok f ∧
    said = "Workspace directory does not exist: " ++
      (layered fs v o (chosenFile? fs v o) f).workspace.quoted

theorem Finds.says {check : Check} {fault : SettingsFault} (h : Finds fs v o check fault) :
    check.Says fs v o fault.message := by
  cases h with
  | start _ => rfl
  | named hfile _ => exact ⟨_, hfile, rfl⟩
  | text hfile _ => exact ⟨_, hfile, _, rfl⟩
  | content hfile _ _ => exact ⟨_, hfile, _, rfl⟩
  | preview _ _ => rfl
  | workspace hf _ => exact ⟨_, hf, rfl⟩

/-- Without any settings file, a workspace that is there is enough. -/
theorem load_of_chosenFile?_eq_none (hstart : fs.isDirectory (startWorkspace fs v o) = true)
    (h : chosenFile? fs v o = none) : load fs v o = .ok (layered fs v o none {}) := by
  have hnamed : namedFile? v o = none := by
    cases hnamed : namedFile? v o with
    | none => rfl
    | some file =>
        rw [chosenFile?, hnamed] at h
        contradiction
  refine (load_eq_ok_iff fs v o _).mpr ⟨hstart, by simp [hnamed], {}, by rw [h]; rfl, by rw [h], ?_⟩
  refine (validate_eq_ok_iff fs _).mpr ⟨show 0 < defaultPreviewChars by decide, ?_⟩
  rwa [workspace_layered_none]

/-- **When settings do not load, and with what**: exactly when a check finds a
fault, with the first that is found, in the words of the check that finds it.
A run that asks for such settings is refused for them.  It is no fault if no
settings file is named and the workspace holds none. -/
theorem load_first_fault (fs : FileSystem) (v : Variables) (o : Overrides) :
    ((∃ fault, load fs v o = .error fault) ↔ ∃ check fault, Finds fs v o check fault) ∧
    (∀ fault, load fs v o = .error fault ↔
      ∃ check, Finds fs v o check fault ∧
        ∀ earlier : Check, earlier.rank < check.rank → ∀ other, ¬Finds fs v o earlier other) ∧
    (∀ check fault, Finds fs v o check fault → check.Says fs v o fault.message) ∧
    (∀ fault, load fs v o = .error fault → ∀ words request,
      CommandLine.read v words = .ok request → request.overrides = o →
        run fs v words = .refused (.settings fault)) ∧
    (namedFile? v o = none →
      fs.isFile ((startWorkspace fs v o).join (Path.ofText fileName)) = false →
        fs.isDirectory (startWorkspace fs v o) = true →
          load fs v o = .ok (layered fs v o none {})) := by
  refine ⟨exists_load_eq_error_iff fs v o, load_eq_error_iff fs v o, ?_, ?_, ?_⟩
  · intro check fault hfinds
    exact hfinds.says
  · intro fault hload words request hread ho
    subst ho
    exact run_of_startFault hread (.load hload)
  · intro hnamed hmissing hstart
    have hchosen : chosenFile? fs v o = none := by
      simp [chosenFile?, hnamed, heldFile?, hmissing]
    exact load_of_chosenFile?_eq_none hstart hchosen

/-- A file system whose settings file leaves previews no character and names
a workspace that is not there. -/
def spoiled : FileSystem where
  currentDirectory := Path.ofText "/a"
  entry? p :=
    [(Path.ofText "/a", .directory 4096),
     (Path.ofText "/a/.analyze-components.yaml",
      .file (Bytes.ofText "preview: \x7bchars: 0\x7d\nworkspace: \x7bpath: /b\x7d\n"))].lookup p

/-- Of two faults that are found the first is reported.  Naming a workspace
mends the other, and leaves the first. -/
theorem load_first_fault_spoiled :
    let o : Overrides := { workspace? := some (Path.ofText "/a") }
    Finds spoiled {} {} .workspace (.workspaceMissing (Path.ofText "/b")) ∧
      load spoiled {} {} = .error .emptyPreview ∧
      Passes spoiled {} o .workspace ∧ load spoiled {} o = .error .emptyPreview := by
  intro o
  have hf : fileSettings spoiled (chosenFile? spoiled {} {}) =
      .ok { workspace? := some "/b", previewChars? := some 0 } := by rfl
  have hf' : fileSettings spoiled (chosenFile? spoiled {} o) =
      .ok { workspace? := some "/b", previewChars? := some 0 } := by rfl
  have hbefore : PassesBefore spoiled {} {} .preview :=
    (passesBefore_text rfl (by simp [namedFile?])).preview hf
  have hbefore' : PassesBefore spoiled {} o .preview :=
    (passesBefore_text rfl (by simp [namedFile?, o])).preview hf'
  exact ⟨.workspace hf rfl,
    ((load_first_fault spoiled {} {}).2.1 _).mpr ⟨.preview, .preview hf rfl, hbefore⟩,
    passes_workspace hf' rfl,
    ((load_first_fault spoiled {} o).2.1 _).mpr ⟨.preview, .preview hf' rfl, hbefore'⟩⟩

end ComponentBrowser.Settings
