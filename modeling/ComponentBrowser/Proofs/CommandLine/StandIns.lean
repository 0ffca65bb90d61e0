import ComponentBrowser.CommandLine.Reader
import ComponentBrowser.Proofs.Settings.Layers

/-!
# ComponentBrowser.Proofs.CommandLine.StandIns

What the variables add to a command line.  Two of the switches have a variable
that stands in for them; at the end of the line its value is taken as if the
switch had been given.

Whether a switch was given, the reader tells from the switches it has settled,
not from what it has collected.  `Reader.Recorded` is the invariant that both
say the same; every word that is read keeps it.

* `Reader.recorded_readSwitches` — the invariant holds behind any words;
* `Reader.withVariable_of_recorded` — taking the variable of one switch;
* `read_eq_map` — a command line with variables is the command line without
  them, and what they stand for.
-/

namespace ComponentBrowser

/-- The overrides with the variable that stands in for a switch, if any does. -/
def Overrides.withStandIn (v : Variables) (o : Overrides) : CommandLine.Switch → Overrides
  | .workspace => { o with workspace? := o.workspace? <|> v.workspace?.map Path.mk }
  | .config => { o with configFile? := o.configFile? <|> v.configFile?.map Path.mk }
  | _ => o

/-- The overrides with all variables that stand in for switches. -/
def Overrides.withStandIns (v : Variables) (o : Overrides) : Overrides :=
  { o with
    workspace? := o.workspace? <|> v.workspace?.map Path.mk
    configFile? := o.configFile? <|> v.configFile?.map Path.mk }

/-- The variables, but for those that stand in for switches. -/
def Variables.withoutStandIns (v : Variables) : Variables :=
  { v with workspace? := none, configFile? := none }

namespace CommandLine

namespace Reader

/-- Whether what the reader has collected shows a switch. -/
def shows (r : Reader) : Switch → Bool
  | .workspace => r.overrides.workspace?.isSome
  | .config => r.overrides.configFile?.isSome
  | .logLevel => r.overrides.logLevel?.isSome
  | .verbose => r.overrides.verbose
  | .noColor => r.overrides.noColor
  | .json => r.json
  | .help | .version => false

/-- The settled switches are those that show. -/
def Recorded (r : Reader) : Prop := ∀ s, s ∈ r.settled ↔ r.shows s = true

theorem recorded_start : start.Recorded := by
  intro s
  cases s <;> simp [start, shows]

/-- What the reader waits for does not matter. -/
theorem Recorded.waiting {r : Reader} (hr : r.Recorded) (waiting? : Option Waiting) :
    { r with waiting? }.Recorded := by
  intro s
  rw [hr s]
  cases s <;> rfl

/-! ## one switch -/

theorem pathValue_of_ne_nil (s : Switch) {value : Bytes} (h : value ≠ []) :
    pathValue s value = .ok ⟨value⟩ := by
  rw [pathValue, if_neg h]

theorem take_eq_ok_iff (r : Reader) (s : Switch) (value : Bytes) (r' : Reader) :
    r.take s value = .ok r' ↔ s ∉ r.settled ∧ ∃ o, apply r.overrides s value = .ok o ∧
      { r with overrides := o, json := r.json || s == .json, settled := r.settled ++ [s] } = r' := by
  rw [take]
  by_cases h : s ∈ r.settled
  · simp [h]
  · simp [h, map_eq_ok_iff]

/-- A switch that is taken shows, and no other one changes. -/
theorem shows_of_take {r r' : Reader} {s : Switch} {value : Bytes}
    (h : r.take s value = .ok r') (other : Switch) :
    r'.shows other = (r.shows other || s == other) := by
  obtain ⟨-, o, ho, rfl⟩ := (take_eq_ok_iff _ _ _ _).mp h
  cases s with
  | workspace | config | logLevel =>
      obtain ⟨x, -, rfl⟩ := (map_eq_ok_iff _ _ _).mp ho
      cases other <;> simp [shows]
  | verbose | noColor | json =>
      injection ho with ho
      subst ho
      cases other <;> simp [shows]
  | help | version => contradiction

theorem recorded_take {r r' : Reader} {s : Switch} {value : Bytes} (hr : r.Recorded)
    (h : r.take s value = .ok r') : r'.Recorded := by
  intro other
  have hshows := shows_of_take h other
  obtain ⟨-, o, -, rfl⟩ := (take_eq_ok_iff _ _ _ _).mp h
  rw [hshows, List.mem_append, List.mem_singleton, hr other, Bool.or_eq_true, beq_iff_eq,
    @eq_comm _ other s]

theorem recorded_settle {r r' : Reader} (hr : r.Recorded) (h : r.settle = .ok r') :
    r'.Recorded := by
  unfold settle at h
  split at h
  · injection h with h
    rwa [← h]
  · split at h
    · contradiction
    · exact recorded_take (hr.waiting none) h

theorem recorded_switch {r r' : Reader} {s : Switch} {value? : Option Bytes} (hr : r.Recorded)
    (h : r.switch s value? = .ok r') : r'.Recorded := by
  unfold switch at h
  split at h
  · obtain ⟨r₁, h₁, h⟩ := (bind_eq_ok_iff _ _ _).mp h
    have hr₁ := recorded_settle hr h₁
    cases value? with
    | none =>
        injection h with h
        rw [← h]
        exact hr₁.waiting _
    | some value => exact recorded_take hr₁ h
  · cases value? with
    | none =>
        obtain ⟨r₁, h₁, h⟩ := (bind_eq_ok_iff _ _ _).mp h
        exact recorded_take (recorded_settle hr h₁) h
    | some value => contradiction

/-! ## words -/

theorem recorded_cluster {switches : List (Char × Switch)} {r r' : Reader} (hr : r.Recorded)
    (h : r.cluster switches = .ok r') : r'.Recorded := by
  induction switches generalizing r with
  | nil =>
      injection h with h
      rwa [← h]
  | cons first rest ih =>
      rw [cluster] at h
      split at h
      · exact recorded_switch hr h
      · obtain ⟨r₁, h₁, h⟩ := (bind_eq_ok_iff _ _ _).mp h
        exact ih (recorded_switch hr h₁) h

/-- Every word that is read keeps the invariant. -/
theorem recorded_readSwitches {words rest : List Bytes} {r r' : Reader} (hr : r.Recorded)
    (h : r.readSwitches words = .ok (r', rest)) : r'.Recorded := by
  induction words generalizing r with
  | nil =>
      injection h with h
      injection h with h
      rwa [← h]
  | cons word words ih =>
      rw [readSwitches] at h
      split at h
      · -- the end of the switches
        injection h with h
        injection h with h
        rwa [← h]
      · -- a long name
        obtain ⟨r₁, h₁, h⟩ := (bind_eq_ok_iff _ _ _).mp h
        exact ih (recorded_switch hr h₁) h
      · contradiction
      · -- short names
        obtain ⟨r₁, h₁, h⟩ := (bind_eq_ok_iff _ _ _).mp h
        exact ih (recorded_cluster hr h₁) h
      · -- a value that was waited for, or the first argument
        split at h
        · exact ih (hr.waiting _) h
        · injection h with h
          injection h with h
          rwa [← h]

/-! ## variables -/

theorem withStandIn_of_variableValue?_eq_none (o : Overrides) {v : Variables} {s : Switch}
    (h : Notice.variableValue? v s = none) : o.withStandIn v s = o := by
  cases s with
  | workspace | config =>
      simp only [Notice.variableValue?] at h
      simp [Overrides.withStandIn, h]
  | _ => rfl

theorem withStandIn_of_shows (v : Variables) {r : Reader} {s : Switch} (h : r.shows s = true) :
    r.overrides.withStandIn v s = r.overrides := by
  cases s with
  | workspace =>
      have hsame : (r.overrides.workspace? <|> v.workspace?.map Path.mk) =
          r.overrides.workspace? := Option.orElse_eq_or.trans (Option.or_of_isSome h)
      rw [Overrides.withStandIn, hsame]
  | config =>
      have hsame : (r.overrides.configFile? <|> v.configFile?.map Path.mk) =
          r.overrides.configFile? := Option.orElse_eq_or.trans (Option.or_of_isSome h)
      rw [Overrides.withStandIn, hsame]
  | _ => rfl

/-- The value of a variable is taken like one that was given. -/
theorem apply_of_variableValue? {v : Variables} {r : Reader} {s : Switch} {value : Bytes}
    (hvalue : Notice.variableValue? v s = some value) (hne : value ≠ [])
    (hshows : r.shows s = false) :
    apply r.overrides s value = .ok (r.overrides.withStandIn v s) := by
  cases s with
  | workspace | config =>
      simp only [Notice.variableValue?] at hvalue
      simp only [shows, Option.isSome_eq_false_iff, Option.isNone_iff_eq_none] at hshows
      simp [apply, pathValue_of_ne_nil _ hne, Overrides.withStandIn, hvalue, hshows, Except.map]
  | _ => contradiction

/-- Taking the variable of one switch. -/
theorem withVariable_of_recorded {v : Variables} {r : Reader} (hr : r.Recorded) (s : Switch)
    (hv : Notice.variableValue? v s ≠ some []) :
    ∃ r', withVariable v r s = .ok r' ∧ r'.Recorded ∧
      r'.overrides = r.overrides.withStandIn v s ∧ r'.json = r.json := by
  unfold withVariable
  cases hvalue : Notice.variableValue? v s with
  | none => exact ⟨r, rfl, hr, (withStandIn_of_variableValue?_eq_none _ hvalue).symm, rfl⟩
  | some value =>
      have hne : value ≠ [] := fun h => hv (hvalue.trans (congrArg some h))
      dsimp only
      by_cases hs : s ∈ r.settled
      · rw [if_pos (List.contains_iff_mem.mpr hs)]
        exact ⟨r, rfl, hr, (withStandIn_of_shows v ((hr s).mp hs)).symm, rfl⟩
      · rw [if_neg (fun h => hs (List.contains_iff_mem.mp h))]
        have hshows : r.shows s = false := Bool.eq_false_iff.mpr (mt (hr s).mpr hs)
        have happly := apply_of_variableValue? hvalue hne hshows
        have htake := (take_eq_ok_iff r s value _).mpr ⟨hs, _, happly, rfl⟩
        refine ⟨_, htake, recorded_take hr htake, rfl, ?_⟩
        -- no variable stands in for the switch that asks for JSON
        cases s with
        | json => contradiction
        | _ => simp

/-- Taking the variables of several switches. -/
theorem foldlM_withVariable {v : Variables} (hv : ∀ s, Notice.variableValue? v s ≠ some [])
    (switches : List Switch) {r : Reader} (hr : r.Recorded) :
    ∃ r', switches.foldlM (withVariable v) r = .ok r' ∧
      r'.overrides = switches.foldl (Overrides.withStandIn v) r.overrides ∧ r'.json = r.json := by
  induction switches generalizing r with
  | nil => exact ⟨r, rfl, rfl, rfl⟩
  | cons s rest ih =>
      obtain ⟨r₁, h₁, hr₁, ho₁, hj₁⟩ := withVariable_of_recorded hr s (hv s)
      obtain ⟨r', h', ho', hj'⟩ := ih hr₁
      refine ⟨r', ?_, ?_, hj'.trans hj₁⟩
      · rw [List.foldlM_cons, h₁]
        exact h'
      · rw [ho', ho₁, List.foldl_cons]

end Reader

/-! ## whole command lines -/

/-- What the words of a command line say by themselves. -/
def readWords (words : List Bytes) : Except Notice (Reader × List String) := do
  let (r, rest) ← Reader.start.readSwitches words
  let r ← r.settle
  let arguments ← rest.mapM Reader.textValue
  pure (r, arguments)

theorem recorded_readWords {words : List Bytes} {r : Reader} {arguments : List String}
    (h : readWords words = .ok (r, arguments)) : r.Recorded := by
  obtain ⟨⟨r₁, rest⟩, h₁, h⟩ := (bind_eq_ok_iff _ _ _).mp h
  obtain ⟨r₂, h₂, h⟩ := (bind_eq_ok_iff _ _ _).mp h
  obtain ⟨_, -, h⟩ := (bind_eq_ok_iff _ _ _).mp h
  injection h with h
  injection h with h
  rw [← h]
  exact Reader.recorded_settle (Reader.recorded_readSwitches Reader.recorded_start h₁) h₂

theorem read_eq (v : Variables) (words : List Bytes) :
    read v words = (readWords words).bind fun p =>
      (Switch.all.foldlM (Reader.withVariable v) p.1).map fun r =>
        ⟨r.overrides, r.json, p.2⟩ := by
  rw [read, readWords]
  cases Reader.start.readSwitches words with
  | error n => rfl
  | ok p =>
      change Except.bind p.1.settle _ = Except.bind (Except.bind p.1.settle _) _
      cases p.1.settle with
      | error n => rfl
      | ok r =>
          change Except.bind (p.2.mapM Reader.textValue) _ =
            Except.bind (Except.bind (p.2.mapM Reader.textValue) _) _
          cases p.2.mapM Reader.textValue with
          | error n => rfl
          | ok arguments =>
            change Except.bind (Switch.all.foldlM (Reader.withVariable v) r) _ =
              Except.map _ (Switch.all.foldlM (Reader.withVariable v) r)
            cases Switch.all.foldlM (Reader.withVariable v) r <;> rfl

theorem foldl_withStandIn_all (v : Variables) (o : Overrides) :
    Switch.all.foldl (Overrides.withStandIn v) o = o.withStandIns v := rfl

theorem withStandIns_withoutStandIns (v : Variables) (o : Overrides) :
    o.withStandIns v.withoutStandIns = o := by
  simp [Overrides.withStandIns, Variables.withoutStandIns]

/-- **A command line with variables** is the command line without them, and
what they stand for. -/
theorem read_eq_map {v : Variables} (hworkspace : v.workspace? ≠ some [])
    (hconfig : v.configFile? ≠ some []) (words : List Bytes) :
    read v words = (read v.withoutStandIns words).map fun q =>
      { q with overrides := q.overrides.withStandIns v } := by
  have hv : ∀ s, Notice.variableValue? v s ≠ some [] := by
    intro s
    cases s <;> simp [Notice.variableValue?, hworkspace, hconfig]
  have hv' : ∀ s, Notice.variableValue? v.withoutStandIns s ≠ some [] := by
    intro s
    cases s <;> simp [Notice.variableValue?, Variables.withoutStandIns]
  rw [read_eq, read_eq]
  cases hread : readWords words with
  | error n => rfl
  | ok p =>
      have hr := recorded_readWords hread
      obtain ⟨r, h, ho, hj⟩ := Reader.foldlM_withVariable hv Switch.all hr
      obtain ⟨r', h', ho', hj'⟩ := Reader.foldlM_withVariable hv' Switch.all hr
      have hsame : r'.overrides.withStandIns v = r.overrides := by
        rw [ho, ho', foldl_withStandIn_all, foldl_withStandIn_all, withStandIns_withoutStandIns]
      simp only [Except.bind, h, h', Except.map, hsame, hj, hj']

end CommandLine

end ComponentBrowser
