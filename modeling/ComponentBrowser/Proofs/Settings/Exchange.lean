import ComponentBrowser.Proofs.Json.Printing
import ComponentBrowser.Proofs.Settings.Layers
import ComponentBrowser.Settings.Json

/-!
# ComponentBrowser.Proofs.Settings.Exchange

Which JSON values give settings.  A value carries six fields (`CarriedBy`): an
object as its members by name, whatever their order and whatever else it holds,
and an array as its items in the order of declaration.  Each has its type:

```
workspace               a string
config_file, log_level  a string or null; an object may lack them
verbose, no_color       a boolean
preview_chars           an integer from 0 to 2^64 - 1, no decimal
```

* `ofJson_eq_ok_iff` — a value gives the settings that its fields are read as;
* `CarriedBy.unique` — which are the only fields that it carries;
* `exists_ofJson_eq_ok_iff` — they are read exactly if they have their types;
* `ofJson_iff_fields` — so for both forms, and settings read back from the one
  that they are written in.
-/

namespace ComponentBrowser.Settings

/-! ## fields -/

/-- What a JSON value says of each setting, in the order of declaration. -/
structure Fields where
  workspace : Json
  configFile : Json
  logLevel : Json
  verbose : Json
  noColor : Json
  previewChars : Json

namespace Fields

/-- The fields as the items of an array. -/
def items (f : Fields) : List Json :=
  [f.workspace, f.configFile, f.logLevel, f.verbose, f.noColor, f.previewChars]

/-- The fields are members of an object; of the two optional ones a missing one
is like `null`. -/
structure MembersOf (v : Json) (f : Fields) : Prop where
  workspace : v.member? "workspace" = some f.workspace
  configFile : (v.member? "config_file").getD .null = f.configFile
  logLevel : (v.member? "log_level").getD .null = f.logLevel
  verbose : v.member? "verbose" = some f.verbose
  noColor : v.member? "no_color" = some f.noColor
  previewChars : v.member? "preview_chars" = some f.previewChars

/-- The fields are those that a JSON value carries. -/
inductive CarriedBy : Json → Fields → Prop where
  | object {members : List (String × Json)} {f : Fields} (h : f.MembersOf (.object members)) :
      CarriedBy (.object members) f
  | array (f : Fields) : CarriedBy (.array f.items) f

/-- Each field has its type. -/
structure Typed (f : Fields) : Prop where
  workspace : ∃ text, f.workspace = .string text
  configFile : f.configFile = .null ∨ ∃ text, f.configFile = .string text
  logLevel : f.logLevel = .null ∨ ∃ text, f.logLevel = .string text
  verbose : ∃ b, f.verbose = .bool b
  noColor : ∃ b, f.noColor = .bool b
  previewChars : ∃ n : Nat, n < 2 ^ 64 ∧ f.previewChars = .ofNat n

/-- Each field is read as the setting. -/
structure Give (f : Fields) (s : Settings) : Prop where
  workspace : pathOf f.workspace = .ok s.workspace
  configFile : optional pathOf f.configFile = .ok s.configFile?
  logLevel : optional textOf f.logLevel = .ok s.logLevel?
  verbose : boolOf f.verbose = .ok s.verbose
  noColor : boolOf f.noColor = .ok s.noColor
  previewChars : countOf f.previewChars = .ok s.previewChars

end Fields

/-! ## one field -/

theorem exists_pathOf_iff (v : Json) : (∃ p, pathOf v = .ok p) ↔ ∃ text, v = .string text := by
  cases v <;> simp [pathOf]

theorem exists_textOf_iff (v : Json) : (∃ t, textOf v = .ok t) ↔ ∃ text, v = .string text := by
  cases v <;> simp [textOf]

theorem exists_boolOf_iff (v : Json) : (∃ x, boolOf v = .ok x) ↔ ∃ b, v = .bool b := by
  cases v <;> simp [boolOf]

theorem exists_optional_iff {α : Type} (read : Json → Except JsonFault α) (v : Json) :
    (∃ x, optional read v = .ok x) ↔ v = .null ∨ ∃ x, read v = .ok x := by
  cases v <;> simp [optional, map_eq_ok_iff]

theorem exists_optional_pathOf_iff (v : Json) :
    (∃ p?, optional pathOf v = .ok p?) ↔ v = .null ∨ ∃ text, v = .string text := by
  rw [exists_optional_iff, exists_pathOf_iff]

theorem exists_optional_textOf_iff (v : Json) :
    (∃ t?, optional textOf v = .ok t?) ↔ v = .null ∨ ∃ text, v = .string text := by
  rw [exists_optional_iff, exists_textOf_iff]

theorem exists_countOf_iff {v : Json} (hv : v.Fits) :
    (∃ n, countOf v = .ok n) ↔ ∃ n : Nat, n < 2 ^ 64 ∧ v = .ofNat n := by
  cases hv with
  | @integer n hlow hhigh =>
      constructor
      · rintro ⟨m, hm⟩
        by_cases hn : 0 ≤ n
        · refine ⟨n.toNat, by omega, ?_⟩
          rw [Json.ofNat, Int.toNat_of_nonneg hn]
        · simp [countOf, hn] at hm
      · rintro ⟨m, -, hm⟩
        cases hm
        exact ⟨m, by simp [countOf]⟩
  | _ => simp [countOf, Json.ofNat]

/-! ## arrays -/

theorem item_eq_ok_iff {α : Type} (read : Json → Except JsonFault α) (items : List Json)
    (place : Nat) (x : α) :
    item read items place = .ok x ↔ ∃ v, items[place]? = some v ∧ read v = .ok x := by
  unfold item
  cases items[place]? <;> simp

theorem exists_items {items : List Json} (h : items.length = 6) :
    ∃ f : Fields, items = f.items := by
  match items, h with
  | [workspace, configFile, logLevel, verbose, noColor, previewChars], _ =>
      exact ⟨⟨workspace, configFile, logLevel, verbose, noColor, previewChars⟩, rfl⟩

/-- An array gives settings exactly if it has six items and each is read. -/
theorem ofItems_eq_ok_iff (items : List Json) (s : Settings) :
    ofItems items = .ok s ↔ ∃ f : Fields, items = f.items ∧ f.Give s := by
  simp only [ofItems, bind_eq_ok_iff, item_eq_ok_iff]
  constructor
  · rintro ⟨workspace, ⟨w, hw, hworkspace⟩, configFile?, ⟨c, hc, hconfigFile⟩, logLevel?,
      ⟨l, hl, hlogLevel⟩, verbose, ⟨v, hv, hverbose⟩, noColor, ⟨n, hn, hnoColor⟩, previewChars,
      ⟨p, hp, hpreviewChars⟩, hs⟩
    split at hs
    · contradiction
    · next hlong =>
        -- The sixth item was read, and the list is refused if it has more.
        have hlast : 5 < items.length := (List.getElem?_eq_some_iff.mp hp).1
        obtain ⟨f, rfl⟩ := exists_items (by omega : items.length = 6)
        cases hs
        cases hw; cases hc; cases hl; cases hv; cases hn; cases hp
        exact ⟨f, rfl, hworkspace, hconfigFile, hlogLevel, hverbose, hnoColor, hpreviewChars⟩
  · rintro ⟨f, rfl, h⟩
    exact ⟨_, ⟨_, rfl, h.workspace⟩, _, ⟨_, rfl, h.configFile⟩, _, ⟨_, rfl, h.logLevel⟩, _,
      ⟨_, rfl, h.verbose⟩, _, ⟨_, rfl, h.noColor⟩, _, ⟨_, rfl, h.previewChars⟩, rfl⟩

/-! ## objects -/

/-- A required member is read if it is there. -/
theorem present_required_iff {α : Type} (read : Json → Except JsonFault α) (v : Json)
    (name : String) (x : α) :
    (∃ x?, present read v name = .ok x? ∧ required name x? = .ok x) ↔
      ∃ w, v.member? name = some w ∧ read w = .ok x := by
  unfold present
  cases v.member? name with
  | none => simp [required]
  | some w => cases h : read w <;> simp [h, Except.map, required]

/-- An optional member is read as if it were `null` where it is missing. -/
theorem present_optional_iff {α : Type} (read : Json → Except JsonFault α) (v : Json)
    (name : String) (x? : Option α) :
    (∃ y?, present (optional read) v name = .ok y? ∧ y?.join = x?) ↔
      optional read ((v.member? name).getD .null) = .ok x? := by
  unfold present
  cases v.member? name with
  | none => simp [optional]
  | some w => simp [map_eq_ok_iff]

/-- An object gives settings exactly if its members carry fields and each is
read. -/
theorem ofObject_eq_ok_iff (v : Json) (s : Settings) :
    ofObject v = .ok s ↔ ∃ f : Fields, f.MembersOf v ∧ f.Give s := by
  simp only [ofObject, bind_eq_ok_iff]
  constructor
  · rintro ⟨configFile?, hconfigFile, logLevel?, hlogLevel, noColor?, hnoColor, previewChars?,
      hpreviewChars, verbose?, hverbose, workspace?, hworkspace, workspace, hworkspace', verbose,
      hverbose', noColor, hnoColor', previewChars, hpreviewChars', hs⟩
    cases hs
    obtain ⟨w, hw, hworkspace⟩ :=
      (present_required_iff _ _ _ _).mp ⟨workspace?, hworkspace, hworkspace'⟩
    obtain ⟨b, hb, hverbose⟩ := (present_required_iff _ _ _ _).mp ⟨verbose?, hverbose, hverbose'⟩
    obtain ⟨n, hn, hnoColor⟩ := (present_required_iff _ _ _ _).mp ⟨noColor?, hnoColor, hnoColor'⟩
    obtain ⟨p, hp, hpreviewChars⟩ :=
      (present_required_iff _ _ _ _).mp ⟨previewChars?, hpreviewChars, hpreviewChars'⟩
    exact ⟨⟨w, _, _, b, n, p⟩, ⟨hw, rfl, rfl, hb, hn, hp⟩, hworkspace,
      (present_optional_iff _ _ _ _).mp ⟨configFile?, hconfigFile, rfl⟩,
      (present_optional_iff _ _ _ _).mp ⟨logLevel?, hlogLevel, rfl⟩, hverbose, hnoColor,
      hpreviewChars⟩
  · rintro ⟨f, hmembers, h⟩
    obtain ⟨workspace?, hworkspace, hworkspace'⟩ :=
      (present_required_iff _ _ _ _).mpr ⟨_, hmembers.workspace, h.workspace⟩
    obtain ⟨configFile?, hconfigFile, hconfigFile'⟩ :=
      (present_optional_iff _ _ _ _).mpr (hmembers.configFile ▸ h.configFile)
    obtain ⟨logLevel?, hlogLevel, hlogLevel'⟩ :=
      (present_optional_iff _ _ _ _).mpr (hmembers.logLevel ▸ h.logLevel)
    obtain ⟨verbose?, hverbose, hverbose'⟩ :=
      (present_required_iff _ _ _ _).mpr ⟨_, hmembers.verbose, h.verbose⟩
    obtain ⟨noColor?, hnoColor, hnoColor'⟩ :=
      (present_required_iff _ _ _ _).mpr ⟨_, hmembers.noColor, h.noColor⟩
    obtain ⟨previewChars?, hpreviewChars, hpreviewChars'⟩ :=
      (present_required_iff _ _ _ _).mpr ⟨_, hmembers.previewChars, h.previewChars⟩
    refine ⟨_, hconfigFile, _, hlogLevel, _, hnoColor, _, hpreviewChars, _, hverbose, _,
      hworkspace, _, hworkspace', _, hverbose', _, hnoColor', _, hpreviewChars', ?_⟩
    rw [hconfigFile', hlogLevel']
    rfl

/-! ## values -/

/-- A value gives settings exactly if it carries fields and each is read. -/
theorem ofJson_eq_ok_iff (v : Json) (s : Settings) :
    ofJson v = .ok s ↔ ∃ f : Fields, f.CarriedBy v ∧ f.Give s := by
  constructor
  · intro h
    cases v with
    | object members =>
        obtain ⟨f, hmembers, hgive⟩ := (ofObject_eq_ok_iff _ s).mp h
        exact ⟨f, .object hmembers, hgive⟩
    | array items =>
        obtain ⟨f, rfl, hgive⟩ := (ofItems_eq_ok_iff items s).mp h
        exact ⟨f, .array f, hgive⟩
    | _ => contradiction
  · rintro ⟨f, hcarried, hgive⟩
    cases hcarried with
    | object hmembers => exact (ofObject_eq_ok_iff _ s).mpr ⟨f, hmembers, hgive⟩
    | array => exact (ofItems_eq_ok_iff _ s).mpr ⟨f, rfl, hgive⟩

theorem Fields.items_injective {f f' : Fields} (h : f.items = f'.items) : f = f' := by
  cases f
  cases f'
  simpa [items] using h

theorem Fields.MembersOf.unique {v : Json} {f f' : Fields} (h : f.MembersOf v)
    (h' : f'.MembersOf v) : f = f' := by
  obtain ⟨workspace, configFile, logLevel, verbose, noColor, previewChars⟩ := f
  obtain ⟨workspace', configFile', logLevel', verbose', noColor', previewChars'⟩ := f'
  obtain rfl := Option.some.inj (h.workspace.symm.trans h'.workspace)
  obtain rfl := h.configFile.symm.trans h'.configFile
  obtain rfl := h.logLevel.symm.trans h'.logLevel
  obtain rfl := Option.some.inj (h.verbose.symm.trans h'.verbose)
  obtain rfl := Option.some.inj (h.noColor.symm.trans h'.noColor)
  obtain rfl := Option.some.inj (h.previewChars.symm.trans h'.previewChars)
  rfl

/-- A value carries no other fields than its own. -/
theorem Fields.CarriedBy.unique {v : Json} {f f' : Fields} (h : f.CarriedBy v)
    (h' : f'.CarriedBy v) : f = f' := by
  cases h with
  | object h =>
      cases h' with
      | object h' => exact h.unique h'
  | array =>
      generalize hv : Json.array f.items = v at h'
      cases h' with
      | object _ => contradiction
      | array => exact items_injective (Json.array.inj hv)

/-- Values that carry the same fields give the same settings. -/
theorem ofJson_congr {v v' : Json} {f : Fields} (h : f.CarriedBy v) (h' : f.CarriedBy v')
    (s : Settings) : ofJson v = .ok s ↔ ofJson v' = .ok s := by
  rw [ofJson_eq_ok_iff, ofJson_eq_ok_iff]
  constructor
  · rintro ⟨g, hg, hgive⟩
    exact ⟨f, h', h.unique hg ▸ hgive⟩
  · rintro ⟨g, hg, hgive⟩
    exact ⟨f, h, h'.unique hg ▸ hgive⟩

/-! ## types -/

theorem fits_of_member? {v w : Json} {name : String} (hv : v.Fits)
    (h : v.member? name = some w) : w.Fits := by
  cases hv with
  | object hmembers =>
      obtain ⟨before, after, hsplit, -⟩ := List.lookup_eq_some_iff.mp h
      -- Of members of one name the last counts, so the list is searched in reverse.
      refine hmembers (name, w) (List.mem_reverse.mp ?_)
      rw [hsplit]
      exact List.mem_append_right before List.mem_cons_self
  | _ => contradiction

theorem Fields.CarriedBy.fits_previewChars {v : Json} {f : Fields} (h : f.CarriedBy v)
    (hv : v.Fits) : f.previewChars.Fits := by
  cases h with
  | object h => exact fits_of_member? hv h.previewChars
  | array =>
      cases hv with
      | array hitems => exact hitems _ (by simp [items])

/-- Fields are read exactly if each has its type. -/
theorem Fields.exists_give_iff {f : Fields} (h : f.previewChars.Fits) :
    (∃ s, f.Give s) ↔ f.Typed := by
  constructor
  · rintro ⟨s, hgive⟩
    exact ⟨(exists_pathOf_iff _).mp ⟨_, hgive.workspace⟩,
      (exists_optional_pathOf_iff _).mp ⟨_, hgive.configFile⟩,
      (exists_optional_textOf_iff _).mp ⟨_, hgive.logLevel⟩,
      (exists_boolOf_iff _).mp ⟨_, hgive.verbose⟩, (exists_boolOf_iff _).mp ⟨_, hgive.noColor⟩,
      (exists_countOf_iff h).mp ⟨_, hgive.previewChars⟩⟩
  · intro htyped
    obtain ⟨workspace, hworkspace⟩ := (exists_pathOf_iff _).mpr htyped.workspace
    obtain ⟨configFile?, hconfigFile⟩ := (exists_optional_pathOf_iff _).mpr htyped.configFile
    obtain ⟨logLevel?, hlogLevel⟩ := (exists_optional_textOf_iff _).mpr htyped.logLevel
    obtain ⟨verbose, hverbose⟩ := (exists_boolOf_iff _).mpr htyped.verbose
    obtain ⟨noColor, hnoColor⟩ := (exists_boolOf_iff _).mpr htyped.noColor
    obtain ⟨previewChars, hpreviewChars⟩ := (exists_countOf_iff h).mpr htyped.previewChars
    exact ⟨⟨workspace, configFile?, logLevel?, verbose, noColor, previewChars⟩, hworkspace,
      hconfigFile, hlogLevel, hverbose, hnoColor, hpreviewChars⟩

/-- A value gives settings exactly if the fields that it carries have their
types. -/
theorem exists_ofJson_eq_ok_iff {v : Json} (hv : v.Fits) :
    (∃ s, ofJson v = .ok s) ↔ ∃ f : Fields, f.CarriedBy v ∧ f.Typed := by
  simp only [ofJson_eq_ok_iff]
  constructor
  · rintro ⟨s, f, hcarried, hgive⟩
    exact ⟨f, hcarried, (Fields.exists_give_iff (hcarried.fits_previewChars hv)).mp ⟨s, hgive⟩⟩
  · rintro ⟨f, hcarried, htyped⟩
    obtain ⟨s, hgive⟩ := (Fields.exists_give_iff (hcarried.fits_previewChars hv)).mpr htyped
    exact ⟨s, f, hcarried, hgive⟩

theorem ofText_toText_ofText (text : String) :
    Path.ofText (Path.ofText text).toText = Path.ofText text :=
  congrArg Path.ofText (Bytes.toText_ofText text)

/-- **Settings as JSON.**  Settings whose paths are texts read back from the
value that they are written as.  Settings are read from exactly the objects and
the arrays whose fields have their types, where an object may lack the optional
ones and hold others, and an array has six items; and the same fields give the
same settings, however they are carried. -/
theorem ofJson_iff_fields :
    (∀ s : Settings, (∃ text, s.workspace = Path.ofText text) →
      (∀ file ∈ s.configFile?, ∃ text, file = Path.ofText text) → ofJson s.toJson = .ok s) ∧
    (∀ v : Json, v.Fits → ((∃ s, ofJson v = .ok s) ↔ ∃ f : Fields, f.CarriedBy v ∧ f.Typed)) ∧
    ∀ (v v' : Json) (f : Fields), f.CarriedBy v → f.CarriedBy v' →
      ∀ s, ofJson v = .ok s ↔ ofJson v' = .ok s := by
  refine ⟨fun s hworkspace hfile => ofJson_toJson s ?_ fun file h => ?_,
    fun v hv => exists_ofJson_eq_ok_iff hv, fun v v' f h h' s => ofJson_congr h h' s⟩
  · obtain ⟨text, htext⟩ := hworkspace
    rw [htext, ofText_toText_ofText]
  · obtain ⟨text, rfl⟩ := hfile file h
    exact ofText_toText_ofText text

/-- Fields with one of the optional ones left out. -/
def sample (previewChars : Json) : Fields :=
  ⟨.string "w", .null, .string "info", .bool true, .bool false, previewChars⟩

/-- The same as an object, in another order and with a member of another name. -/
def sampleObject (previewChars : Json) : Json :=
  .object
    [("preview_chars", previewChars), ("theme", .ofNat 1), ("workspace", .string "w"),
     ("no_color", .bool false), ("log_level", .string "info"), ("verbose", .bool true)]

theorem carriedBy_sampleObject (previewChars : Json) :
    (sample previewChars).CarriedBy (sampleObject previewChars) :=
  .object ⟨rfl, rfl, rfl, rfl, rfl, rfl⟩

theorem fits_sampleObject {previewChars : Json} (h : previewChars.Fits) :
    (sampleObject previewChars).Fits := by
  refine .object ?_
  simp only [List.forall_mem_cons]
  exact ⟨h, Json.fits_ofNat (by decide), .string _, .bool _, .string _, .bool _, nofun⟩

/-- The same settings from an array and from an object, and none where the
number of characters is a decimal. -/
theorem ofJson_iff_fields_sample :
    (∃ s, ofJson (sampleObject (.ofNat 7)) = .ok s ∧
      ofJson (.array (sample (.ofNat 7)).items) = .ok s ∧ ofJson s.toJson = .ok s) ∧
    ¬ ∃ s, ofJson (sampleObject (.number (.decimal false 7 0))) = .ok s := by
  obtain ⟨hback, hiff, hcongr⟩ := ofJson_iff_fields
  constructor
  · have htyped : (sample (.ofNat 7)).Typed :=
      ⟨⟨_, rfl⟩, .inl rfl, .inr ⟨_, rfl⟩, ⟨_, rfl⟩, ⟨_, rfl⟩, 7, by decide, rfl⟩
    obtain ⟨s, hs⟩ := (hiff _ (fits_sampleObject (Json.fits_ofNat (by decide)))).mpr
      ⟨_, carriedBy_sampleObject _, htyped⟩
    refine ⟨s, hs, (hcongr _ _ _ (carriedBy_sampleObject _) (.array _) s).mp hs, hback s ?_ ?_⟩
    · cases hs
      exact ⟨"w", rfl⟩
    · cases hs
      exact nofun
  · rw [hiff _ (fits_sampleObject (.decimal false 7 0))]
    rintro ⟨f, hcarried, htyped⟩
    obtain rfl := hcarried.unique (carriedBy_sampleObject _)
    obtain ⟨n, -, hn⟩ := htyped.previewChars
    cases hn

end ComponentBrowser.Settings
