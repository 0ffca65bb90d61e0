import ComponentBrowser.Proofs.Settings.Layers

/-!
# ComponentBrowser.Proofs.Settings.Pinned

Loaded settings can be pinned: the command line that names each of them loads
them again, without any help from the environment.

What a command line cannot say is said again by the settings file.  Where one
was read, it is named; where none was, the workspace that is named holds none,
since only a settings file could have led away from the workspace that was
looked at.

* `chosenFile?_pinned` — the same settings file is chosen;
* `layered_pinned` — and it adds nothing to what is named;
* `load_pinned` — so the same settings are loaded.
-/

namespace ComponentBrowser.Settings

/-- The command line that names all it can of some settings. -/
def pinned (s : Settings) : Overrides where
  workspace? := some s.workspace
  configFile? := s.configFile?
  logLevel? := s.logLevel?
  verbose := s.verbose
  noColor := s.noColor

variable {fs : FileSystem} {v : Variables} {o : Overrides}

theorem startWorkspace_pinned (fs : FileSystem) (s : Settings) :
    startWorkspace fs {} s.pinned = s.workspace := rfl

theorem namedFile?_pinned (s : Settings) : namedFile? {} s.pinned = s.configFile? :=
  Option.orElse_eq_or.trans Option.or_none

/-- Without a settings file, the workspace that was looked at is the one that
is settled on. -/
theorem workspace_layered_none (fs : FileSystem) (v : Variables) (o : Overrides) :
    (layered fs v o none {}).workspace = startWorkspace fs v o := by
  unfold layered startWorkspace
  cases o.workspace? <;> cases v.workspace? <;> rfl

/-- The same settings file is chosen. -/
theorem chosenFile?_pinned {f : FileSettings}
    (hf : fileSettings fs (chosenFile? fs v o) = .ok f) :
    chosenFile? fs {} (layered fs v o (chosenFile? fs v o) f).pinned = chosenFile? fs v o := by
  have hnamed := namedFile?_pinned (layered fs v o (chosenFile? fs v o) f)
  rw [chosenFile?, hnamed, startWorkspace_pinned]
  cases hchosen : chosenFile? fs v o with
  | some file => rfl
  | none =>
      rw [hchosen] at hf
      injection hf with hf
      subst hf
      -- no file was named, and the workspace that was looked at holds none
      have hheld : heldFile? fs (startWorkspace fs v o) = none := by
        rw [chosenFile?] at hchosen
        cases hfile : namedFile? v o with
        | some file => rw [hfile] at hchosen; contradiction
        | none => rw [hfile] at hchosen; exact hchosen
      rw [workspace_layered_none, hheld]
      rfl

/-- The settings file adds nothing to what is pinned. -/
theorem layered_pinned (fs : FileSystem) (v : Variables) (o : Overrides) (file? : Option Path)
    (f : FileSettings) :
    layered fs {} (layered fs v o file? f).pinned file? f = layered fs v o file? f := by
  have hlevel : ((layered fs v o file? f).logLevel? <|> f.level? <|>
      if (layered fs v o file? f).verbose then some verboseLevel else none) =
        (layered fs v o file? f).logLevel? := by
    unfold layered
    cases o.logLevel? <;> cases v.logLevel? <;> cases f.level? <;> cases o.verbose <;> rfl
  have hcolor : ((layered fs v o file? f).noColor || f.color? == some false) =
      (layered fs v o file? f).noColor := by
    unfold layered
    rw [Bool.or_assoc, Bool.or_self]
  calc layered fs {} (layered fs v o file? f).pinned file? f
      = { layered fs v o file? f with
          logLevel? := (layered fs v o file? f).logLevel? <|> f.level? <|>
            if (layered fs v o file? f).verbose then some verboseLevel else none
          noColor := (layered fs v o file? f).noColor || f.color? == some false } := by
        rw [layered, pinned, Option.isSome_none, Bool.or_false]
        rfl
    _ = layered fs v o file? f := by rw [hlevel, hcolor]

/-- The settings file that is chosen is there. -/
theorem isFile_of_mem_chosenFile? (hnamed : ∀ file ∈ namedFile? v o, fs.isFile file = true)
    {file : Path} (h : file ∈ chosenFile? fs v o) : fs.isFile file = true := by
  rw [chosenFile?] at h
  cases hname : namedFile? v o with
  | some named =>
      rw [hname] at h
      injection h with h
      exact hnamed file (hname.trans (congrArg some h))
  | none =>
      rw [hname] at h
      change heldFile? fs (startWorkspace fs v o) = some file at h
      rw [heldFile?] at h
      split at h
      · injection h with h
        rwa [← h]
      · contradiction

/-- **Loaded settings can be pinned**: the command line that names them loads
them again. -/
theorem load_pinned {s : Settings} (h : load fs v o = .ok s) : load fs {} s.pinned = .ok s := by
  obtain ⟨-, hnamed, f, hf, hs, hvalid⟩ := (load_eq_ok_iff fs v o s).mp h
  have hchosen : chosenFile? fs {} s.pinned = chosenFile? fs v o := by
    rw [hs, chosenFile?_pinned hf]
  have hfile : namedFile? {} s.pinned = chosenFile? fs v o := by
    rw [namedFile?_pinned, hs]
    rfl
  have hdir : fs.isDirectory s.workspace = true := ((validate_eq_ok_iff fs s).mp hvalid).2
  refine (load_eq_ok_iff fs {} s.pinned s).mpr ⟨hdir, ?_, f, ?_, ?_, hvalid⟩
  · intro file hmem
    rw [hfile] at hmem
    exact isFile_of_mem_chosenFile? hnamed hmem
  · rw [hchosen, hf]
  · rw [hchosen, hs, layered_pinned]

/-- Settings that are taken from a settings file, which moves the workspace,
and from two of the variables. -/
theorem load_pinned_relocated :
    ∃ s, load relocated { logFilter? := some (Bytes.ofText "info"), noColor? := some [] }
        { verbose := true } = .ok s ∧
      load relocated {}
        { workspace? := some (Path.ofText "/b")
          configFile? := some (Path.ofText "/a/.analyze-components.yaml")
          logLevel? := some "info", verbose := true, noColor := true } = .ok s := by
  have h : load relocated { logFilter? := some (Bytes.ofText "info"), noColor? := some [] }
      { verbose := true } = .ok ⟨Path.ofText "/b",
        some (Path.ofText "/a/.analyze-components.yaml"), some "info", true, true, 5000⟩ := by rfl
  exact ⟨_, h, load_pinned h⟩

end ComponentBrowser.Settings
