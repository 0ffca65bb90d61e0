import ComponentBrowser.Proofs.Settings.Layers

/-!
# ComponentBrowser.Proofs.Settings.Headings

Where each of the settings in a file is read from: its heading, its key there
and the kind of value that it has.

```
workspace:           logging:                   preview:
  path: text           level: text                chars: count
                       color: flag
```

* `lookup_members` — a member that is found is what stands at its key;
* `setting_of_group` — a setting from what is read under its heading;
* `setting_of_ofDocument` — the heading and the key of each setting.
-/

namespace ComponentBrowser

namespace Yaml.Document

variable {α β : Type} {d : Document}

/-! ## members -/

/-- What stands at a key among entries. -/
def among? (d : Document) (key : String) (entries : List (Node × Node)) : Option Node :=
  (entries.find? fun entry => (d.text entry.1).toOption == some key).map Prod.snd

/-- What stands at a key of a mapping. -/
def at? (d : Document) (n : Node) (key : String) : Option Node :=
  (d.entries n).toOption.bind (d.among? key)

theorem among?_cons_of_text {entry : Node × Node} {name : String}
    (h : d.text entry.1 = .ok name) (key : String) (entries : List (Node × Node)) :
    d.among? key (entry :: entries) =
      if name = key then some entry.2 else d.among? key entries := by
  rw [among?, List.find?_cons, h]
  by_cases heq : name = key
  · simp [heq, Except.toOption]
  · rw [if_neg heq]
    have hkey : ((Except.ok name : Except Fault String).toOption == some key) = false := by
      simp [Except.toOption, heq]
    rw [hkey, among?]

/-- One entry more: a member is the one found before or stands in the entry. -/
theorem lookup_addMember {names : List String} {found found' : List (String × Node)}
    {entry : Node × Node} (h : d.addMember names found entry = .ok found') {key : String}
    (hkey : key ∈ names) (entries : List (Node × Node)) :
    (found.lookup key).or (d.among? key (entry :: entries)) =
      (found'.lookup key).or (d.among? key entries) := by
  rw [addMember] at h
  cases hname : d.text entry.1 with
  | error fault =>
      rw [hname] at h
      contradiction
  | ok name =>
      rw [among?_cons_of_text hname]
      rw [hname] at h
      change (if (!names.contains name) = true then _ else _) = _ at h
      split at h
      · next hother =>
          injection h with h
          have hne : name ≠ key := fun heq => by
            rw [heq, List.contains_iff_mem.mpr hkey] at hother
            contradiction
          rw [if_neg hne, h]
      · split at h
        · contradiction
        · next hfresh =>
            injection h with h
            rw [← h, List.lookup_cons]
            by_cases heq : name = key
            · rw [heq, Option.not_isSome_iff_eq_none] at hfresh
              simp [heq, hfresh]
            · have hbeq : (key == name) = false := beq_false_of_ne (Ne.symm heq)
              rw [if_neg heq, hbeq]

theorem lookup_foldlM_addMember {names : List String} {entries : List (Node × Node)}
    {found found' : List (String × Node)}
    (h : entries.foldlM (d.addMember names) found = .ok found') {key : String}
    (hkey : key ∈ names) :
    found'.lookup key = (found.lookup key).or (d.among? key entries) := by
  induction entries generalizing found with
  | nil =>
      injection h with h
      rw [← h]
      exact (Option.or_none).symm
  | cons entry entries ih =>
      rw [List.foldlM_cons] at h
      cases hadd : d.addMember names found entry with
      | error fault =>
          rw [hadd] at h
          contradiction
      | ok next =>
          rw [hadd] at h
          rw [lookup_addMember hadd hkey, ih h]

/-- **A member is what stands at its key.** -/
theorem lookup_members {names : List String} {n : Node} {found : List (String × Node)}
    (h : d.members names n = .ok found) {key : String} (hkey : key ∈ names) :
    found.lookup key = d.at? n key := by
  rw [members] at h
  rw [at?]
  cases hentries : d.entries n with
  | error fault =>
      rw [hentries] at h
      contradiction
  | ok entries =>
      rw [hentries] at h
      exact lookup_foldlM_addMember h hkey

/-! ## values -/

/-- What is read at a key of a mapping, if anything stands there. -/
def readAt (d : Document) (read : Node → Except Fault α) (n : Node) (key : String) :
    Except Fault (Option α) :=
  (d.at? n key).elim (.ok none) (d.optional read)

theorem optionalMember_members {names : List String} {n : Node} {found : List (String × Node)}
    (h : d.members names n = .ok found) {key : String} (hkey : key ∈ names)
    (read : Node → Except Fault α) :
    d.optionalMember read found key = d.readAt read n key := by
  rw [optionalMember, readAt, lookup_members h hkey]
  cases d.at? n key with
  | none => rfl
  | some m => rfl

/-- What is read of a node that may say that nothing is there, and the node
itself in its place. -/
theorem optional_cases {read : Node → Except Fault α} {n : Node} {x? : Option α}
    (h : d.optional read n = .ok x?) :
    (x? = none ∧ d.optional .ok n = .ok none) ∨
      ∃ x, x? = some x ∧ read n = .ok x ∧ d.optional .ok n = .ok (some n) := by
  rw [optional] at h ⊢
  cases hnothing : d.saysNothing n with
  | error fault =>
      rw [hnothing] at h
      contradiction
  | ok nothing =>
      rw [hnothing] at h
      cases nothing with
      | true =>
          injection h with h
          exact .inl ⟨h.symm, rfl⟩
      | false =>
          change (read n).map some = _ at h
          cases hread : read n with
          | error fault =>
              rw [hread] at h
              contradiction
          | ok x =>
              rw [hread] at h
              injection h with h
              exact .inr ⟨x, h.symm, rfl, rfl⟩

/-- What is read at a key under a heading. -/
def setting (d : Document) (read : Node → Except Fault α) (heading key : String) :
    Except Fault (Option α) := do
  (← d.readAt .ok d.root heading).elim (.ok none) fun n => d.readAt read n key

/-- A setting that is read together with all that stands under its heading. -/
theorem setting_of_group {group : Node → Except Fault β} {heading : String} {g? : Option β}
    (hgroup : d.readAt group d.root heading = .ok g?) {read : Node → Except Fault α}
    {key : String} {part : β → Option α}
    (hpart : ∀ n g, group n = .ok g → d.readAt read n key = .ok (part g)) :
    d.setting read heading key = .ok (g?.bind part) := by
  rw [readAt] at hgroup
  cases hat : d.at? d.root heading with
  | none =>
      have hnode : d.readAt .ok d.root heading = .ok none := by rw [readAt, hat, Option.elim_none]
      rw [hat] at hgroup
      injection hgroup with hgroup
      rw [setting, hnode, ← hgroup]
      rfl
  | some n =>
      have hnode : d.readAt .ok d.root heading = d.optional .ok n := by
        rw [readAt, hat, Option.elim_some]
      rw [hat] at hgroup
      rw [setting, hnode]
      rcases optional_cases hgroup with ⟨rfl, hnothing⟩ | ⟨g, rfl, hg, hvalue⟩
      · rw [hnothing]
        rfl
      · rw [hvalue]
        exact hpart n g hg

end Yaml.Document

namespace FileSettings

open Yaml (Document Node)

variable {d : Document} {n : Node}

theorem path_of_workspaceOf {path? : Option String} (h : workspaceOf d n = .ok path?) :
    d.readAt d.text n "path" = .ok path? := by
  rw [workspaceOf, bind_eq_ok_iff] at h
  obtain ⟨found, hfound, h⟩ := h
  rwa [Document.optionalMember_members hfound (by decide)] at h

theorem of_loggingOf {g : Option String × Option Bool} (h : loggingOf d n = .ok g) :
    d.readAt d.text n "level" = .ok g.1 ∧ d.readAt d.flag n "color" = .ok g.2 := by
  simp only [loggingOf, bind_eq_ok_iff] at h
  obtain ⟨found, hfound, level?, hlevel, color?, hcolor, h⟩ := h
  injection h with h
  rw [Document.optionalMember_members hfound (by decide)] at hlevel hcolor
  rw [← h]
  exact ⟨hlevel, hcolor⟩

theorem chars_of_previewOf {chars? : Option Nat} (h : previewOf d n = .ok chars?) :
    d.readAt d.count n "chars" = .ok chars? := by
  rw [previewOf, bind_eq_ok_iff] at h
  obtain ⟨found, hfound, h⟩ := h
  rwa [Document.optionalMember_members hfound (by decide)] at h

/-- **Where each setting of a file is read from**: its heading, its key there and
the kind of its value. -/
theorem setting_of_ofDocument {f : FileSettings} (h : ofDocument d = .ok f) :
    d.setting d.text "workspace" "path" = .ok f.workspace? ∧
      d.setting d.text "logging" "level" = .ok f.level? ∧
      d.setting d.flag "logging" "color" = .ok f.color? ∧
      d.setting d.count "preview" "chars" = .ok f.previewChars? := by
  simp only [ofDocument, bind_eq_ok_iff] at h
  obtain ⟨found, hfound, workspace?, hworkspace, logging?, hlogging, preview?, hpreview, h⟩ := h
  injection h with h
  rw [Document.optionalMember_members hfound (by decide)] at hworkspace hlogging hpreview
  rw [← h]
  exact ⟨Document.setting_of_group hworkspace fun _ _ => path_of_workspaceOf,
    Document.setting_of_group hlogging fun _ _ hg => (of_loggingOf hg).1,
    Document.setting_of_group hlogging fun _ _ hg => (of_loggingOf hg).2,
    Document.setting_of_group hpreview fun _ _ => chars_of_previewOf⟩

end FileSettings

end ComponentBrowser
