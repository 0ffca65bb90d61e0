import ComponentBrowser.Command
import ComponentBrowser.Proofs.Text.Grouped
import Mathlib.Data.List.Forall2

/-!
# ComponentBrowser.Proofs.Catalog.Sizes

The text of a listing tells every size, but not an empty file from a missing
one.  Names and descriptions may hold anything, even what looks like a size
line; all the same the text is read in one way only, because a size line begins
with two blanks, as no other line that may stand in its place does.

* `unindented_body` — neither an entry nor the closing rule begins like a size
  line;
* `sizeLine_append_inj` — so a size line is told from whatever may follow, and
  with it the size;
* `render_eq_render_iff` — two texts of the same entries are equal exactly if
  their sizes are;
* `size?_of_listText_eq` — the text of the catalog tells the sizes found.
-/

namespace ComponentBrowser.Listing

/-! ## sizes -/

/-- The size that a text tells: a missing file is like an empty one. -/
def shownSize (l : Listing) : Nat := l.size?.getD 0

/-- Two entries are of the same component. -/
structure SameEntry (l l' : Listing) : Prop where
  index_eq : l.index = l'.index
  filename_eq : l.filename = l'.filename
  description_eq : l.description = l'.description

variable {l l' : Listing}

theorem shownSize_eq_iff {size : Nat} (hsize : 0 < size) :
    l.shownSize = size ↔ l.size? = some size := by
  rw [shownSize]
  cases l.size? with
  | none => simp [Nat.ne_of_lt hsize]
  | some n => simp

theorem SameEntry.nameLine_eq (h : SameEntry l l') : l.nameLine = l'.nameLine := by
  rw [nameLine, nameLine, h.index_eq, h.filename_eq, h.description_eq]

/-! ## size lines -/

theorem toList_sizeLine_of_eq_zero (h : l.shownSize = 0) : l.sizeLine.toList = [] := by
  unfold shownSize at h
  unfold sizeLine
  split
  · rfl
  · rfl
  · next size hne hsize =>
      rw [hsize] at h
      exact absurd h hne

theorem toList_sizeLine_of_pos (h : 0 < l.shownSize) :
    l.sizeLine.toList = "    Size: ".toList ++ (Grouped.digits l.shownSize ++
      ' ' :: ("bytes (".toList ++ Decimal.digits (l.shownSize / 1024) ++ "KB)\n".toList)) := by
  unfold shownSize at h ⊢
  unfold sizeLine
  split
  · next hsize => simp [hsize] at h
  · next hsize => simp [hsize] at h
  · next size hne hsize => simp [hsize, Grouped.render, Decimal.render]

/-- The line hangs on the size that is shown alone. -/
theorem toList_sizeLine_congr (h : l.shownSize = l'.shownSize) :
    l.sizeLine.toList = l'.sizeLine.toList := by
  rcases Nat.eq_zero_or_pos l.shownSize with hzero | hpos
  · rw [toList_sizeLine_of_eq_zero hzero, toList_sizeLine_of_eq_zero (h ▸ hzero)]
  · rw [toList_sizeLine_of_pos hpos, toList_sizeLine_of_pos (h ▸ hpos), h]

/-- A text does not begin with two blanks. -/
def Unindented (cs : List Char) : Prop := ¬ [' ', ' '] <+: cs

theorem not_unindented_sizeLine_append (h : 0 < l.shownSize) (rest : List Char) :
    ¬ Unindented (l.sizeLine.toList ++ rest) := by
  rw [toList_sizeLine_of_pos h, Unindented, Classical.not_not]
  exact ⟨_, rfl⟩

/-- **A size line is recognised** before any text that is not indented like it,
and tells the size. -/
theorem sizeLine_append_inj {rest rest' : List Char} (hrest : Unindented rest)
    (hrest' : Unindented rest') (h : l.sizeLine.toList ++ rest = l'.sizeLine.toList ++ rest') :
    l.shownSize = l'.shownSize ∧ rest = rest' := by
  rcases Nat.eq_zero_or_pos l.shownSize with hzero | hpos
  · rw [toList_sizeLine_of_eq_zero hzero, List.nil_append] at h
    rcases Nat.eq_zero_or_pos l'.shownSize with hzero' | hpos'
    · rw [toList_sizeLine_of_eq_zero hzero', List.nil_append] at h
      exact ⟨hzero.trans hzero'.symm, h⟩
    · rw [h] at hrest
      exact absurd hrest (not_unindented_sizeLine_append hpos' rest')
  · rcases Nat.eq_zero_or_pos l'.shownSize with hzero' | hpos'
    · rw [toList_sizeLine_of_eq_zero hzero', List.nil_append] at h
      rw [← h] at hrest'
      exact absurd hrest' (not_unindented_sizeLine_append hpos rest)
    · rw [toList_sizeLine_of_pos hpos, toList_sizeLine_of_pos hpos'] at h
      simp only [List.append_assoc, List.cons_append] at h
      obtain ⟨hsize, hline⟩ := Grouped.digits_append_blank_inj (List.append_cancel_left h)
      rw [hsize] at hline
      refine ⟨hsize, ?_⟩
      simpa using hline

/-! ## entries -/

theorem toList_nameLine (l : Listing) :
    l.nameLine.toList = List.replicate (2 - (Decimal.digits l.index).length) ' ' ++
      (Decimal.digits l.index ++
        (". " ++ padEnd filenameWidth l.filename ++ " - " ++ l.description ++ "\n").toList) := by
  simp [nameLine, padStart, Decimal.render]

/-- The line of an entry begins with its index, before which stands one blank at
most. -/
theorem unindented_nameLine_append (l : Listing) (rest : List Char) :
    Unindented (l.nameLine.toList ++ rest) := by
  obtain ⟨d, ds, hindex⟩ := List.exists_cons_of_ne_nil (Decimal.digits_ne_nil l.index)
  have hd : d ≠ ' ' := by
    rintro rfl
    have hdigit := Decimal.isDigit_of_mem_digits l.index ' ' (by rw [hindex]; simp)
    exact absurd hdigit (by decide)
  have hblanks : 2 - (d :: ds).length ≤ 1 := by
    rw [List.length_cons]
    omega
  rw [toList_nameLine, hindex, Unindented]
  rcases Nat.le_one_iff_eq_zero_or_eq_one.mp hblanks with hnone | hone
  · rw [hnone]
    simp [hd.symm]
  · rw [hone]
    simp [hd.symm]

/-- What stands below the title of a listing. -/
def body (ls : List Listing) : List Char :=
  ls.flatMap (fun l => l.nameLine.toList ++ l.sizeLine.toList) ++ (Section.rule ++ "\n").toList

theorem toList_render (ls : List Listing) :
    (render ls).toList = (Section.header title).toList ++ body ls := by
  simp [render, body, List.flatMap_map, String.toList_join]

theorem body_cons (l : Listing) (ls : List Listing) :
    body (l :: ls) = l.nameLine.toList ++ (l.sizeLine.toList ++ body ls) := by
  simp [body]

theorem unindented_body (ls : List Listing) : Unindented (body ls) := by
  cases ls with
  | nil => simp [body, Unindented, Section.rule, Section.ruleWidth, List.replicate_succ]
  | cons l ls =>
      rw [body_cons]
      exact unindented_nameLine_append l _

/-! ## texts -/

variable {ls ls' : List Listing}

theorem body_inj (h : List.Forall₂ SameEntry ls ls') (hbody : body ls = body ls') :
    List.Forall₂ (fun l l' => l.shownSize = l'.shownSize) ls ls' := by
  induction h with
  | nil => exact .nil
  | @cons l l' ls ls' hentry _ ih =>
      rw [body_cons, body_cons, hentry.nameLine_eq] at hbody
      obtain ⟨hsize, hrest⟩ := sizeLine_append_inj (unindented_body ls) (unindented_body ls')
        (List.append_cancel_left hbody)
      exact .cons hsize (ih hrest)

theorem body_congr (h : List.Forall₂ SameEntry ls ls')
    (hsizes : List.Forall₂ (fun l l' => l.shownSize = l'.shownSize) ls ls') :
    body ls = body ls' := by
  induction h with
  | nil => rfl
  | cons hentry _ ih =>
      cases hsizes with
      | cons hsize hsizes =>
          rw [body_cons, body_cons, hentry.nameLine_eq, toList_sizeLine_congr hsize, ih hsizes]

/-- Two texts of the same entries are equal exactly if the sizes that they show
are. -/
theorem render_eq_render_iff (h : List.Forall₂ SameEntry ls ls') :
    render ls = render ls' ↔
      List.Forall₂ (fun l l' => l.shownSize = l'.shownSize) ls ls' := by
  rw [← String.toList_inj, toList_render, toList_render, List.append_cancel_left_eq]
  exact ⟨body_inj h, body_congr h⟩

/-- Where the same sizes are shown, the positive ones are the same. -/
theorem size?_eq_of_shownSize_eq
    (h : List.Forall₂ (fun l l' => l.shownSize = l'.shownSize) ls ls') :
    List.Forall₂ (fun l l' => ∀ size, 0 < size → (l.size? = some size ↔ l'.size? = some size))
      ls ls' :=
  h.imp fun _ _ hsize size hpos => by
    rw [← shownSize_eq_iff hpos, ← shownSize_eq_iff hpos, hsize]

/-- **The text of a listing tells the sizes**, all but the difference between a
missing file and an empty one, whatever the names and descriptions hold. -/
theorem render_eq_iff_sizes (h : List.Forall₂ SameEntry ls ls') :
    (render ls = render ls' ↔
      List.Forall₂ (fun l l' => l.size?.getD 0 = l'.size?.getD 0) ls ls') ∧
    (render ls = render ls' →
      List.Forall₂ (fun l l' => ∀ size, 0 < size → (l.size? = some size ↔ l'.size? = some size))
        ls ls') :=
  ⟨render_eq_render_iff h, fun heq => size?_eq_of_shownSize_eq ((render_eq_render_iff h).mp heq)⟩

/-- An entry whose description imitates a size line. -/
def imitating (size? : Option Nat) : Listing :=
  ⟨0, "notes.txt", "nothing\n    Size: 1 bytes (0KB)", size?⟩

/-- The imitation is not taken for the size line behind it. -/
theorem render_eq_iff_sizes_imitating :
    render [imitating none, imitating (some 2)] = render [imitating (some 0), imitating (some 2)] ∧
    render [imitating none, imitating (some 2)] ≠
      render [imitating (some 1), imitating (some 2)] := by
  have hentries (size size' : Option Nat) :
      List.Forall₂ SameEntry [imitating size, imitating (some 2)]
        [imitating size', imitating (some 2)] :=
    .cons ⟨rfl, rfl, rfl⟩ (.cons ⟨rfl, rfl, rfl⟩ .nil)
  constructor
  · exact (render_eq_iff_sizes (hentries none (some 0))).1.mpr (.cons rfl (.cons rfl .nil))
  · intro h
    cases (render_eq_iff_sizes (hentries none (some 1))).1.mp h with
    | cons hsize _ => exact absurd hsize (by decide)

/-! ## the catalog -/

theorem sameEntry_all (fs fs' : FileSystem) (workspace workspace' : Path) :
    List.Forall₂ SameEntry (all fs workspace) (all fs' workspace') := by
  rw [all, all, List.forall₂_map_left_iff, List.forall₂_map_right_iff, List.forall₂_same]
  exact fun _ _ => ⟨rfl, rfl, rfl⟩

/-- The text that lists the catalog tells every positive size in the workspace. -/
theorem size?_of_listText_eq {fs fs' : FileSystem} {workspace workspace' : Path}
    (h : Command.listText fs workspace false = Command.listText fs' workspace' false) :
    List.Forall₂ (fun l l' => ∀ size, 0 < size → (l.size? = some size ↔ l'.size? = some size))
      (all fs workspace) (all fs' workspace') :=
  size?_eq_of_shownSize_eq
    ((render_eq_render_iff (sameEntry_all fs fs' workspace workspace')).mp h)

end ComponentBrowser.Listing
