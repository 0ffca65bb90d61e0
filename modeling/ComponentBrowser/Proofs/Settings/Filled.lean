import ComponentBrowser.Proofs.CommandLine.StandIns

/-!
# ComponentBrowser.Proofs.Settings.Filled

The environment and the command line are interchangeable: a variable has the
same effect as the switch that says the same, where that switch is not given,
and none where it is.

* `load_eq_load_filled` — the environment can be moved to the command line;
* `load_congr` — what the command line says hides what the environment says;
* `load_interchange` — both, and that it makes no difference that the reader of
  the command line has moved two of the variables already.
-/

namespace ComponentBrowser

/-- The overrides, and what the environment says where they are silent. -/
def Overrides.filled (v : Variables) (o : Overrides) : Overrides where
  workspace? := o.workspace? <|> v.workspace?.map Path.mk
  configFile? := o.configFile? <|> v.configFile?.map Path.mk
  logLevel? := o.logLevel? <|> v.logLevel?
  verbose := o.verbose
  noColor := o.noColor || v.noColor?.isSome

/-- Two environments differ at most in what the overrides say themselves. -/
structure Overrides.Hides (o : Overrides) (v v' : Variables) : Prop where
  workspace : o.workspace? = none → v'.workspace? = v.workspace?
  configFile : o.configFile? = none → v'.configFile? = v.configFile?
  logFilter : o.logLevel? = none → v'.logFilter? = v.logFilter?
  noColor : o.noColor = false → v'.noColor? = v.noColor?

namespace Settings

/-! ## the pieces of a load -/

theorem startWorkspace_filled (fs : FileSystem) (v : Variables) (o : Overrides) :
    startWorkspace fs {} (o.filled v) = startWorkspace fs v o := by
  unfold startWorkspace Overrides.filled
  cases o.workspace? <;> cases v.workspace? <;> rfl

theorem namedFile?_filled (v : Variables) (o : Overrides) :
    namedFile? {} (o.filled v) = namedFile? v o := by
  unfold namedFile? Overrides.filled
  cases o.configFile? <;> cases v.configFile? <;> rfl

theorem layered_filled (fs : FileSystem) (v : Variables) (o : Overrides) (file? : Option Path)
    (f : FileSettings) : layered fs {} (o.filled v) file? f = layered fs v o file? f := by
  have hworkspace : (layered fs {} (o.filled v) file? f).workspace =
      (layered fs v o file? f).workspace := by
    unfold layered Overrides.filled
    cases o.workspace? <;> cases v.workspace? <;> rfl
  have hlevel : (layered fs {} (o.filled v) file? f).logLevel? =
      (layered fs v o file? f).logLevel? := by
    unfold layered Overrides.filled
    cases o.logLevel? <;> cases v.logLevel? <;> rfl
  have hcolor : (layered fs {} (o.filled v) file? f).noColor =
      (layered fs v o file? f).noColor := by
    unfold layered Overrides.filled
    rw [Option.isSome_none, Bool.or_false]
  calc layered fs {} (o.filled v) file? f
      = ⟨(layered fs {} (o.filled v) file? f).workspace, file?,
          (layered fs {} (o.filled v) file? f).logLevel?, o.verbose,
          (layered fs {} (o.filled v) file? f).noColor,
          f.previewChars?.getD defaultPreviewChars⟩ := rfl
    _ = layered fs v o file? f := by
        rw [hworkspace, hlevel, hcolor]
        rfl

/-- The environment can be moved to the command line. -/
theorem load_eq_load_filled (fs : FileSystem) (v : Variables) (o : Overrides) :
    load fs v o = load fs {} (o.filled v) := by
  rw [load_eq, load_eq, startWorkspace_filled, namedFile?_filled]
  simp only [layered_filled]

/-! ## overrides that are filled alike -/

theorem orElse_congr_right {α : Type} {x y y' : Option α} (h : x = none → y' = y) :
    (x <|> y') = (x <|> y) := by
  cases x with
  | some _ => rfl
  | none => rw [h rfl]

theorem filled_eq_of_hides {o : Overrides} {v v' : Variables} (h : o.Hides v v') :
    o.filled v' = o.filled v := by
  have hworkspace : (o.workspace? <|> v'.workspace?.map Path.mk) =
      (o.workspace? <|> v.workspace?.map Path.mk) :=
    orElse_congr_right fun ho => by rw [h.workspace ho]
  have hfile : (o.configFile? <|> v'.configFile?.map Path.mk) =
      (o.configFile? <|> v.configFile?.map Path.mk) :=
    orElse_congr_right fun ho => by rw [h.configFile ho]
  have hlevel : (o.logLevel? <|> v'.logLevel?) = (o.logLevel? <|> v.logLevel?) :=
    orElse_congr_right fun ho => by rw [Variables.logLevel?, h.logFilter ho, Variables.logLevel?]
  have hcolor : (o.noColor || v'.noColor?.isSome) = (o.noColor || v.noColor?.isSome) := by
    cases ho : o.noColor with
    | true => rfl
    | false => rw [h.noColor ho]
  rw [Overrides.filled, hworkspace, hfile, hlevel, hcolor]
  rfl

/-- What the command line says hides what the environment says. -/
theorem load_congr (fs : FileSystem) {o : Overrides} {v v' : Variables} (h : o.Hides v v') :
    load fs v' o = load fs v o := by
  rw [load_eq_load_filled, filled_eq_of_hides h, ← load_eq_load_filled]

theorem filled_withStandIns (v : Variables) (o : Overrides) :
    (o.withStandIns v).filled v = o.filled v := by
  have hworkspace : (((o.workspace? <|> v.workspace?.map Path.mk) <|> v.workspace?.map Path.mk)) =
      (o.workspace? <|> v.workspace?.map Path.mk) := by
    cases o.workspace? <;> cases v.workspace? <;> rfl
  have hfile : (((o.configFile? <|> v.configFile?.map Path.mk) <|> v.configFile?.map Path.mk)) =
      (o.configFile? <|> v.configFile?.map Path.mk) := by
    cases o.configFile? <;> cases v.configFile? <;> rfl
  rw [Overrides.filled, Overrides.withStandIns]
  dsimp only
  rw [hworkspace, hfile]
  rfl

/-- Moving the variables that stand in for switches makes no difference. -/
theorem load_withStandIns (fs : FileSystem) (v : Variables) (o : Overrides) :
    load fs v (o.withStandIns v) = load fs v o := by
  rw [load_eq_load_filled, filled_withStandIns, ← load_eq_load_filled]

/-! ## both layers -/

/-- **The environment and the command line are interchangeable**: what the
environment says can be moved to the command line, a variable is ignored where
the command line says the same thing itself, and it makes no difference that
the reader of a command line has moved two variables already. -/
theorem load_interchange (fs : FileSystem) (v : Variables) :
    (∀ o, load fs v o = load fs {} (o.filled v)) ∧
    (∀ o v', o.Hides v v' → load fs v' o = load fs v o) ∧
    (v.workspace? ≠ some [] → v.configFile? ≠ some [] → ∀ words,
      CommandLine.read v words = (CommandLine.read v.withoutStandIns words).map fun q =>
        { q with overrides := q.overrides.withStandIns v }) ∧
    (∀ o, load fs v (o.withStandIns v) = load fs v o) :=
  ⟨load_eq_load_filled fs v, fun _ _ => load_congr fs,
    fun hworkspace hconfig => CommandLine.read_eq_map hworkspace hconfig, load_withStandIns fs v⟩

/-- Variables that name a workspace and the settings file of another one. -/
def crossed : Variables where
  workspace? := some (Bytes.ofText "/b")
  configFile? := some (Bytes.ofText "/a/.analyze-components.yaml")
  logFilter? := some (Bytes.ofText "info")

/-- A command line that sets the level itself: the reader has moved both
paths, and the filter of the environment is not asked. -/
theorem load_interchange_crossed :
    ∃ q, CommandLine.read crossed (["-v", "--log-level=trace", "list"].map Bytes.ofText) = .ok q ∧
      q.overrides.workspace? = some (Path.ofText "/b") ∧
      load relocated crossed q.overrides =
        load relocated crossed { logLevel? := some "trace", verbose := true } ∧
      load relocated { crossed with logFilter? := none } q.overrides =
        load relocated crossed q.overrides ∧
      load relocated crossed q.overrides = load relocated {} (q.overrides.filled crossed) := by
  obtain ⟨hfilled, hhides, hread, hmoved⟩ := load_interchange relocated crossed
  have hwords : CommandLine.read crossed.withoutStandIns
      (["-v", "--log-level=trace", "list"].map Bytes.ofText) =
        .ok ⟨{ logLevel? := some "trace", verbose := true }, false, ["list"]⟩ := by rfl
  have hq := hread (by decide) (by decide) (["-v", "--log-level=trace", "list"].map Bytes.ofText)
  rw [hwords] at hq
  refine ⟨_, hq, rfl, hmoved _, hhides _ _ ⟨fun _ => rfl, fun _ => rfl, ?_, fun _ => rfl⟩,
    hfilled _⟩
  intro hlevel
  contradiction

end Settings

end ComponentBrowser
