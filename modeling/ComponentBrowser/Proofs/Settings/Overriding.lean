import ComponentBrowser.Proofs.Settings.Layers
import Mathlib.Algebra.Group.Basic

/-!
# ComponentBrowser.Proofs.Settings.Overriding

Overrides form a monoid: `o + d` lays `d` over `o`, so that `d` speaks first,
and nothing said is neutral.  Overriding settings is an action of this monoid,

```
s.withOverrides (o + d) = (s.withOverrides o).withOverrides d
```

although being verbose sets a level only where none is set yet: the level that
a verbose `o` falls back on is the first to give way to `d`.

* `withOverrides_add` — the action, and `foldl_withOverrides` for a series;
* `withOverrides_series` — what a series of overrides amounts to;
* `layered_eq_withOverrides` — the command line comes last of all layers;
* `load_add` — so overrides that lead to no other files can come later still.
-/

namespace ComponentBrowser

/-! ## the monoid -/

namespace Overrides

/-- Two command lines as one, of which the second speaks first. -/
instance : Add Overrides where
  add o d :=
    { workspace? := d.workspace? <|> o.workspace?
      configFile? := d.configFile? <|> o.configFile?
      logLevel? := d.logLevel? <|> o.logLevel?
      verbose := o.verbose || d.verbose
      noColor := o.noColor || d.noColor }

instance : Zero Overrides := ⟨{}⟩

theorem add_def (o d : Overrides) : o + d =
    ⟨d.workspace? <|> o.workspace?, d.configFile? <|> o.configFile?,
      d.logLevel? <|> o.logLevel?, o.verbose || d.verbose, o.noColor || d.noColor⟩ := rfl

theorem zero_def : (0 : Overrides) = {} := rfl

@[simp] theorem logLevel?_add (o d : Overrides) :
    (o + d).logLevel? = (d.logLevel? <|> o.logLevel?) := rfl

instance : AddMonoid Overrides where
  add_assoc o d e := by simp [add_def, Option.or_assoc, Bool.or_assoc]
  zero_add o := by simp [add_def, zero_def]
  add_zero o := by simp [add_def, zero_def]
  nsmul := nsmulRec

/-- Saying the same again adds nothing. -/
@[simp] theorem add_self (o : Overrides) : o + o = o := by simp [add_def]

/-- Overrides that set no level add none. -/
theorem logLevel?_sum_eq_none {os : List Overrides} (h : ∀ o ∈ os, o.logLevel? = none) :
    os.sum.logLevel? = none := by
  induction os with
  | nil => rfl
  | cons o os ih =>
      have ho : o.logLevel? = none := h o List.mem_cons_self
      have hos : os.sum.logLevel? = none := ih fun d hd => h d (List.mem_cons_of_mem o hd)
      rw [List.sum_cons, logLevel?_add, ho, hos]
      rfl

/-- The last level that is set is the level of the sum. -/
theorem logLevel?_sum_of_last (earlier : List Overrides) {o : Overrides} {level : String}
    (ho : o.logLevel? = some level) {later : List Overrides}
    (h : ∀ d ∈ later, d.logLevel? = none) :
    (earlier ++ o :: later).sum.logLevel? = some level := by
  rw [List.sum_append, List.sum_cons]
  simp [ho, logLevel?_sum_eq_none h]

end Overrides

/-! ## overriding -/

namespace Settings

@[simp] theorem withOverrides_zero (s : Settings) : s.withOverrides 0 = s := withOverrides_none s

theorem logLevel?_withOverrides_of_some (s : Settings) {o : Overrides} {level : String}
    (h : o.logLevel? = some level) : (s.withOverrides o).logLevel? = some level := by
  simp [withOverrides, h]

/-- Overriding with a sum is overriding with one summand after the other. -/
theorem withOverrides_add (s : Settings) (o d : Overrides) :
    s.withOverrides (o + d) = (s.withOverrides o).withOverrides d := by
  -- a level that `o` falls back on is there for `d`, who may still set another
  have hlevel : (if (o.verbose || d.verbose) = true then
      some (((d.logLevel? <|> o.logLevel?) <|> s.logLevel?).getD verboseLevel)
      else ((d.logLevel? <|> o.logLevel?) <|> s.logLevel?)) =
        ((s.withOverrides o).withOverrides d).logLevel? := by
    unfold withOverrides
    cases o.verbose <;> cases d.verbose <;> cases d.logLevel? <;> cases o.logLevel? <;> rfl
  rw [Overrides.add_def, withOverrides]
  simp only [hlevel]
  simp [withOverrides, Option.or_assoc, Bool.or_comm, Bool.or_left_comm]

theorem foldl_withOverrides (s : Settings) (os : List Overrides) :
    os.foldl withOverrides s = s.withOverrides os.sum := by
  induction os generalizing s with
  | nil => exact (withOverrides_zero s).symm
  | cons o os ih =>
      calc os.foldl withOverrides (s.withOverrides o)
          = (s.withOverrides o).withOverrides os.sum := ih _
        _ = s.withOverrides (o + os.sum) := (withOverrides_add s o _).symm
        _ = s.withOverrides (o :: os).sum := by rw [List.sum_cons]

/-- **Overrides compose**: a series of them amounts to their sum, saying the
same twice to saying it once, and the last level that is set is the level,
whether or not anything before it was verbose. -/
theorem withOverrides_series (s : Settings) (os : List Overrides) :
    os.foldl withOverrides s = s.withOverrides os.sum ∧
    (∀ o, (s.withOverrides o).withOverrides o = s.withOverrides o) ∧
    ∀ o level later, o.logLevel? = some level → (∀ d ∈ later, d.logLevel? = none) →
      ((os ++ o :: later).foldl withOverrides s).logLevel? = some level := by
  refine ⟨foldl_withOverrides s os, ?_, ?_⟩
  · intro o
    rw [← withOverrides_add, Overrides.add_self]
  · intro o level later ho hlater
    rw [foldl_withOverrides]
    exact logLevel?_withOverrides_of_some s (Overrides.logLevel?_sum_of_last os ho hlater)

/-- A verbose start gives way to a level, which being verbose again keeps. -/
theorem withOverrides_series_verbose :
    let o : Overrides := { logLevel? := some "info" }
    let later : List Overrides := [{ verbose := true, noColor := true }]
    ([{ verbose := true }].foldl withOverrides (initial relocated)).logLevel? = some "debug" ∧
      o.logLevel? = some "info" ∧ (∀ d ∈ later, d.logLevel? = none) ∧
      (({ verbose := true } :: o :: later).foldl withOverrides
        (initial relocated)).logLevel? = some "info" := by
  intro o later
  have hlater : ∀ d ∈ later, d.logLevel? = none := by simp [later]
  obtain ⟨-, -, hlast⟩ := withOverrides_series (initial relocated) [{ verbose := true }]
  exact ⟨rfl, rfl, hlater, hlast o "info" later rfl hlater⟩

/-! ## overriding what is loaded -/

/-- The command line comes last: it overrides what the other layers make.  It
has had its say about the settings file before. -/
theorem layered_eq_withOverrides (fs : FileSystem) (v : Variables) (o : Overrides)
    (file? : Option Path) (f : FileSettings) :
    layered fs v o file? f =
      (layered fs v {} file? f).withOverrides { o with configFile? := none } := by
  have hworkspace : (layered fs v o file? f).workspace =
      o.workspace?.getD (layered fs v {} file? f).workspace := by
    unfold layered
    cases o.workspace? <;> rfl
  have hlevel : (layered fs v o file? f).logLevel? =
      ((layered fs v {} file? f).withOverrides { o with configFile? := none }).logLevel? := by
    unfold layered withOverrides
    cases o.logLevel? <;> cases v.logLevel? <;> cases f.level? <;> cases o.verbose <;> rfl
  have hcolor : (layered fs v o file? f).noColor =
      (o.noColor || (layered fs v {} file? f).noColor) := by
    unfold layered
    rw [Bool.or_assoc, Bool.false_or]
  calc layered fs v o file? f
      = { layered fs v o file? f with
          workspace := o.workspace?.getD (layered fs v {} file? f).workspace
          logLevel? := ((layered fs v {} file? f).withOverrides
            { o with configFile? := none }).logLevel?
          noColor := o.noColor || (layered fs v {} file? f).noColor } := by
        rw [← hworkspace, ← hlevel, ← hcolor]
    _ = (layered fs v {} file? f).withOverrides { o with configFile? := none } := by
        simp [layered, withOverrides]

section
variable {d : Overrides}

theorem layered_add (fs : FileSystem) (v : Variables) (o : Overrides) (file? : Option Path)
    (f : FileSettings) (hfile : d.configFile? = none) :
    layered fs v (o + d) file? f = (layered fs v o file? f).withOverrides d := by
  have hsum : { o + d with configFile? := none } = { o with configFile? := none } + d := by
    rw [Overrides.add_def, Overrides.add_def, hfile]
    rfl
  rw [layered_eq_withOverrides, hsum, withOverrides_add, ← layered_eq_withOverrides]

/-- Validation reads nothing that such overrides change. -/
theorem validate_withOverrides (fs : FileSystem) (s : Settings) (hworkspace : d.workspace? = none) :
    (s.withOverrides d).validate fs = s.validate fs := by
  simp [validate, withOverrides, hworkspace]

/-- Overrides that lead to no other files change what is loaded, and not
whether it loads. -/
theorem load_add (fs : FileSystem) (v : Variables) (o : Overrides)
    (hworkspace : d.workspace? = none) (hfile : d.configFile? = none) :
    load fs v (o + d) = (load fs v o).map (·.withOverrides d) := by
  have hstart : startWorkspace fs v (o + d) = startWorkspace fs v o := by
    simp [startWorkspace, Overrides.add_def, hworkspace]
  have hnamed : namedFile? v (o + d) = namedFile? v o := by
    simp [namedFile?, Overrides.add_def, hfile]
  rw [load_eq, load_eq, hstart, hnamed]
  split
  · cases findFile? fs (startWorkspace fs v o) (namedFile? v o) with
    | error fault => rfl
    | ok file? =>
        cases hf : fileSettings fs file? with
        | error fault => simp [hf, bind, Except.bind, Except.map]
        | ok f =>
            simp only [hf, bind, Except.bind, layered_add fs v o file? f hfile,
              validate_withOverrides fs _ hworkspace]
            cases (layered fs v o file? f).validate fs <;> rfl
  · rfl

/-- **Overriding what is loaded is loading with the overrides**, where they
name neither a workspace nor a settings file: a load that fails fails alike, and
settings that load are overridden. -/
theorem load_then_override (fs : FileSystem) (v : Variables) (o : Overrides)
    (hworkspace : d.workspace? = none) (hfile : d.configFile? = none) :
    (∀ fault, load fs v o = .error fault → load fs v (o + d) = .error fault) ∧
    ∀ s, load fs v o = .ok s → load fs v (o + d) = .ok (s.withOverrides d) := by
  rw [load_add fs v o hworkspace hfile]
  constructor
  · intro fault h
    rw [h]
    rfl
  · intro s h
    rw [h]
    rfl

end

/-- A level that comes after the load takes the place of the one that a verbose
run falls back on. -/
theorem load_then_override_verbose :
    let d : Overrides := { logLevel? := some "trace", noColor := true }
    d.workspace? = none ∧ d.configFile? = none ∧
      ∃ s, load relocated {} { verbose := true } = .ok s ∧ s.logLevel? = some "debug" ∧
        load relocated {} ({ verbose := true } + d) =
          .ok { s with logLevel? := some "trace", noColor := true } := by
  intro d
  have h : load relocated {} { verbose := true } =
      .ok ⟨Path.ofText "/b", some (Path.ofText "/a/.analyze-components.yaml"), some "debug",
        true, false, 5000⟩ := by rfl
  refine ⟨rfl, rfl, _, h, rfl, ?_⟩
  exact (load_then_override relocated {} { verbose := true } rfl rfl).2 _ h

end Settings

end ComponentBrowser
