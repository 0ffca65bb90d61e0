import ComponentBrowser.Proofs.Settings.Layers

/-!
# ComponentBrowser.Proofs.Run.LogFilter

Which log filter a run works with.  Two parts of the program decide: loading
settles on a level or on none, and what sets the log up falls back on the
environment and then on a default.  Both know the environment, but the second
look at it never matters:

```
command line  >  environment  >  settings file  >  "debug" if verbose  >  "warn"
                 ^ both looks are here
```

Loading leaves the level open only where the environment has none and the run
is not verbose, so that nothing but the default is left.

* `logLevel?_layered_eq_none_iff` — when the level is left open;
* `filterText_layered` — the filter that the two parts settle on;
* `filter_of_load` — the same for what is loaded, and what is parsed.
-/

namespace ComponentBrowser

namespace Settings

variable {fs : FileSystem} {v : Variables} {o : Overrides} {file? : Option Path} {f : FileSettings}

/-- The level that is named somewhere. -/
def namedLevel? (v : Variables) (o : Overrides) (f : FileSettings) : Option String :=
  o.logLevel? <|> v.logLevel? <|> f.level?

/-- The filter of a run: the level that is named, or else what verbose and other
runs fall back on. -/
def resolvedFilter (v : Variables) (o : Overrides) (f : FileSettings) : String :=
  (namedLevel? v o f).getD (if o.verbose then verboseLevel else defaultLevel)

theorem namedLevel?_eq_none_iff :
    namedLevel? v o f = none ↔ o.logLevel? = none ∧ v.logLevel? = none ∧ f.level? = none := by
  simp [namedLevel?]

theorem logLevel?_layered :
    (layered fs v o file? f).logLevel? =
      (namedLevel? v o f <|> if o.verbose then some verboseLevel else none) := by
  unfold layered namedLevel?
  cases o.logLevel? <;> cases v.logLevel? <;> rfl

/-- The level is left open only where nobody names one and the run is not
verbose. -/
theorem logLevel?_layered_eq_none_iff :
    (layered fs v o file? f).logLevel? = none ↔ namedLevel? v o f = none ∧ o.verbose = false := by
  rw [logLevel?_layered]
  cases o.verbose <;> simp

theorem filterText_some (level : String) (v : Variables) : filterText (some level) v = level := rfl

/-- The two looks at the environment settle on one filter. -/
theorem filterText_layered :
    filterText (layered fs v o file? f).logLevel? v = resolvedFilter v o f := by
  rw [logLevel?_layered, resolvedFilter]
  cases hnamed : namedLevel? v o f with
  | some level => rfl
  | none =>
      cases o.verbose with
      | true => rfl
      | false =>
          -- the second look finds no more than the first one did
          have hv : v.logLevel? = none := (namedLevel?_eq_none_iff.mp hnamed).2.1
          simp [filterText, hv]

/-- **One log filter.**  What a run with loaded settings parses as its filter is
the level of the command line, or else the one of the environment, if that is
text, or else the one of the settings file; without any, `debug` if the run is
verbose and `warn` if not.  A level that loading settled on is parsed whatever
the environment says then, and where it settled on none, neither the environment
nor being verbose had one to offer. -/
theorem filter_of_load {s : Settings} (h : load fs v o = .ok s) :
    ∃ f, fileSettings fs (chosenFile? fs v o) = .ok f ∧
      filterText s.logLevel? v =
        (o.logLevel? <|> v.logFilter?.bind Bytes.toText? <|> f.level?).getD
          (if o.verbose then "debug" else "warn") ∧
      filter s.logLevel? v =
        (Log.Filter.parse (filterText s.logLevel? v)).mapError
          (Log.Halt.map (.badFilter (filterText s.logLevel? v))) ∧
      (∀ level, s.logLevel? = some level → ∀ v', filterText s.logLevel? v' = level) ∧
      (s.logLevel? = none → v.logFilter?.bind Bytes.toText? = none ∧ o.verbose = false) ∧
      (o.logLevel? = none → v.logFilter?.bind Bytes.toText? = none → f.level? = none →
        o.verbose = true → filterText s.logLevel? v = "debug") := by
  obtain ⟨-, -, f, hf, rfl, -⟩ := (load_eq_ok_iff fs v o s).mp h
  refine ⟨f, hf, filterText_layered, rfl, ?_, ?_, ?_⟩
  · intro level hlevel v'
    rw [hlevel, filterText_some]
  · intro hlevel
    obtain ⟨hnamed, hverbose⟩ := logLevel?_layered_eq_none_iff.mp hlevel
    exact ⟨(namedLevel?_eq_none_iff.mp hnamed).2.1, hverbose⟩
  · intro ho hv hlevel hverbose
    have hnamed : namedLevel? v o f = none := namedLevel?_eq_none_iff.mpr ⟨ho, hv, hlevel⟩
    rw [filterText_layered, resolvedFilter, hnamed, hverbose]
    rfl

/-- Two verbose runs: the environment has no text for the one and an empty text
for the other. -/
theorem filter_of_load_verbose :
    (∃ s, load relocated { logFilter? := some [0xFF] } { verbose := true } = .ok s ∧
      filterText s.logLevel? { logFilter? := some [0xFF] } = "debug") ∧
    ∃ s, load relocated { logFilter? := some [] } { verbose := true } = .ok s ∧
      filterText s.logLevel? { logFilter? := some [] } = "" ∧
      ∀ v', filterText s.logLevel? v' = "" := by
  have hdebug : load relocated { logFilter? := some [0xFF] } { verbose := true } =
      .ok ⟨Path.ofText "/b", some (Path.ofText "/a/.analyze-components.yaml"), some "debug",
        true, false, 5000⟩ := by rfl
  have hempty : load relocated { logFilter? := some [] } { verbose := true } =
      .ok ⟨Path.ofText "/b", some (Path.ofText "/a/.analyze-components.yaml"), some "",
        true, false, 5000⟩ := by rfl
  obtain ⟨-, -, -, -, hlevel, -⟩ := filter_of_load hdebug
  obtain ⟨-, -, -, -, hlevel', -⟩ := filter_of_load hempty
  exact ⟨⟨_, hdebug, hlevel _ rfl _⟩, _, hempty, hlevel' _ rfl _, hlevel' _ rfl⟩

end Settings

end ComponentBrowser
