import ComponentBrowser.Catalog.Preview
import ComponentBrowser.Proofs.Text.Grouped

/-!
# ComponentBrowser.Proofs.Catalog.Closing

A preview as text is read in one way only.  What it shows of the file may hold
anything, rules, titles and closing lines among it; but the name is told from
the front, where it ends at the first line break behind it, and the size from
the back, where it begins at the last blank but one.

* `Section.header_append_inj` — a header is told from what follows it;
* `closing_append_inj` — a closing line is told from what stands before it, and
  tells the size;
* `render_eq_iff_shown` — two previews have the same text exactly if they show
  the same of files of one name and size.
-/

namespace ComponentBrowser

/-! ## the front -/

theorem Section.toList_header (title : String) :
    (Section.header title).toList =
      '\n' :: Section.rule.toList ++
        '\n' :: (title.toList ++ '\n' :: (Section.rule ++ "\n").toList) := by
  simp [Section.header]

/-- A header is told from whatever follows it, if its title is one line. -/
theorem Section.header_append_inj {title title' : String} {rest rest' : List Char}
    (hline : '\n' ∉ title.toList) (hline' : '\n' ∉ title'.toList)
    (h : (Section.header title).toList ++ rest = (Section.header title').toList ++ rest') :
    title = title' ∧ rest = rest' := by
  rw [toList_header, toList_header] at h
  simp only [List.append_assoc, List.cons_append, List.cons.injEq, List.append_cancel_left_eq,
    true_and] at h
  obtain ⟨htitle, hrest⟩ := Text.append_cons_inj hline hline' h
  exact ⟨String.toList_inj.mp htitle, List.append_cancel_left hrest⟩

namespace Preview

/-! ## the back -/

/-- What stands before the size in the line that closes a preview, up to the blank. -/
def notice : String := "... (truncated, total size:"

/-- The line that closes the preview of a file of a given size. -/
def closing (size : Nat) : String := notice ++ " " ++ Grouped.render size ++ " bytes)\n"

theorem toList_closing (size : Nat) :
    (closing size).toList =
      notice.toList ++ ' ' :: Grouped.digits size ++ " bytes)\n".toList := by
  simp [closing, Grouped.render]

/-- A closing line is told from whatever stands before it, and tells the size. -/
theorem closing_append_inj {front front' : List Char} {size size' : Nat}
    (h : front ++ (closing size).toList = front' ++ (closing size').toList) :
    front = front' ∧ size = size' := by
  rw [toList_closing, toList_closing] at h
  simp only [← List.append_assoc, List.append_cancel_right_eq] at h
  obtain ⟨hfront, hdigits⟩ := Text.append_cons_inj_right (Grouped.blank_not_mem_digits size)
    (Grouped.blank_not_mem_digits size') h
  exact ⟨List.append_cancel_right hfront, Grouped.digits_injective hdigits⟩

/-! ## previews -/

variable {p p' : Preview}

theorem toList_render (p : Preview) :
    p.render.toList = (Section.header ("COMPONENT: " ++ p.filename)).toList ++
      (p.text.toList ++ "\n\n".toList ++ (closing p.totalBytes).toList) := by
  have hnotice : "\n\n... (truncated, total size: " = "\n\n" ++ (notice ++ " ") := by decide
  rw [render, hnotice]
  simp [closing]

theorem newline_not_mem_title (h : '\n' ∉ p.filename.toList) :
    '\n' ∉ ("COMPONENT: " ++ p.filename).toList := by
  simpa using h

theorem shown_of_render_eq (hline : '\n' ∉ p.filename.toList)
    (hline' : '\n' ∉ p'.filename.toList) (h : p.render = p'.render) :
    p.filename = p'.filename ∧ p.text = p'.text ∧ p.totalBytes = p'.totalBytes := by
  rw [← String.toList_inj, toList_render, toList_render] at h
  obtain ⟨htitle, hrest⟩ := Section.header_append_inj (newline_not_mem_title hline)
    (newline_not_mem_title hline') h
  obtain ⟨hshown, hsize⟩ := closing_append_inj hrest
  exact ⟨(String.append_right_inj _).mp htitle,
    String.toList_inj.mp (List.append_cancel_right hshown), hsize⟩

/-- The text hangs on what is shown and on the name and the size of the file
alone. -/
theorem render_congr (hfilename : p.filename = p'.filename) (htext : p.text = p'.text)
    (hsize : p.totalBytes = p'.totalBytes) : p.render = p'.render := by
  rw [render, render, hfilename, htext, hsize]

/-- The text ends in the line with the size of the file, and in no other such
line. -/
theorem exists_render_eq_append_closing_iff (p : Preview) (size : Nat) :
    (∃ front, p.render = front ++ closing size) ↔ size = p.totalBytes := by
  constructor
  · rintro ⟨front, h⟩
    rw [← String.toList_inj, toList_render, String.toList_append, ← List.append_assoc] at h
    exact (closing_append_inj h).2.symm
  · rintro rfl
    refine ⟨Section.header ("COMPONENT: " ++ p.filename) ++ (p.text ++ "\n\n"), ?_⟩
    rw [← String.toList_inj, toList_render]
    simp only [String.toList_append, List.append_assoc]

/-- **A preview is read in one way only.**  Two previews of files whose names are
one line have the same text exactly if name, shown text and size are the same,
whatever the shown texts hold; whether the preview was cut does not show, and
the line that closes it tells the size of the file and no other. -/
theorem render_eq_iff_shown (hline : '\n' ∉ p.filename.toList)
    (hline' : '\n' ∉ p'.filename.toList) :
    (p.render = p'.render ↔
      p.filename = p'.filename ∧ p.text = p'.text ∧ p.totalBytes = p'.totalBytes) ∧
    (∀ cut, { p with truncated := cut }.render = p.render) ∧
    ∀ size, (∃ front, p.render = front ++ closing size) ↔ size = p.totalBytes :=
  ⟨⟨shown_of_render_eq hline hline', fun ⟨hfilename, htext, hsize⟩ =>
      render_congr hfilename htext hsize⟩,
    fun _ => render_congr rfl rfl rfl, exists_render_eq_append_closing_iff p⟩

/-- A file that imitates the end of a preview. -/
def imitating (size : Nat) : Preview where
  filename := "notes.txt"
  text := "x\n\n... (truncated, total size: 7 bytes)"
  totalBytes := size
  truncated := false

/-- The imitation is not taken for the closing line behind it. -/
theorem render_eq_iff_shown_imitating :
    (imitating 38).render ≠ (imitating 1000).render ∧
    ∀ front, (imitating 1000).render ≠ front ++ closing 7 := by
  obtain ⟨hiff, -, hsize⟩ :=
    @render_eq_iff_shown (imitating 1000) (imitating 38) (by decide) (by decide)
  refine ⟨fun h => ?_, fun front h => ?_⟩
  · exact absurd (hiff.mp h.symm).2.2 (by decide)
  · exact absurd ((hsize 7).mp ⟨front, h⟩) (by decide)

end Preview

end ComponentBrowser
