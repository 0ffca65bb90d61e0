import ComponentBrowser.Text.Blank

/-!
# ComponentBrowser.Proofs.Text.Trim

What trimming a text leaves: the text between the white space at its ends.

* `exists_eq_append_trim` — only white space is taken away;
* `trim_append` — all of it is, so white space at the ends makes no difference;
* `trim_eq_self` — a text without white space at its ends is left alone.
-/

namespace ComponentBrowser.Text

/-- Visible ASCII is not white space. -/
theorem isBlank_eq_false_of_ascii {c : Char} (hlow : 0x20 < c.toNat) (hhigh : c.toNat < 0x85) :
    isBlank c = false := by
  have h9 : 0x09 ≤ c.toNat := by omega
  have h14 : 0x0E ≤ c.toNat := by omega
  have h32 : 0x20 ≤ c.toNat := by omega
  have h33 : 0x21 ≤ c.toNat := by omega
  have h133 : ¬ 0x85 ≤ c.toNat := by omega
  simp [isBlank, CodePoints.has, CodePoints.contains, blanks, h9, h14, h32, h33, h133]

/-! ## the front -/

theorem exists_eq_append_trimStart (cs : List Char) :
    ∃ before, cs = before ++ trimStart cs ∧ ∀ c ∈ before, isBlank c = true := by
  refine ⟨cs.takeWhile isBlank, ?_, ?_⟩
  · exact List.takeWhile_append_dropWhile.symm
  · exact List.all_eq_true.mp List.all_takeWhile

theorem trimStart_append {before : List Char} (h : ∀ c ∈ before, isBlank c = true)
    (cs : List Char) : trimStart (before ++ cs) = trimStart cs :=
  List.dropWhile_append_of_pos h

theorem trimStart_eq_nil {cs : List Char} (h : ∀ c ∈ cs, isBlank c = true) :
    trimStart cs = [] := by
  have happend := trimStart_append h []
  rw [List.append_nil] at happend
  exact happend

theorem trimStart_eq_self {cs : List Char} (h : ∀ c ∈ cs.head?, isBlank c = false) :
    trimStart cs = cs := by
  cases cs with
  | nil => rfl
  | cons c rest => rw [trimStart, List.dropWhile_cons_of_neg (by simp [h c rfl])]

/-! ## the end -/

theorem exists_eq_trimEnd_append (cs : List Char) :
    ∃ after, cs = trimEnd cs ++ after ∧ ∀ c ∈ after, isBlank c = true := by
  obtain ⟨before, heq, hblank⟩ := exists_eq_append_trimStart cs.reverse
  refine ⟨before.reverse, ?_, fun c hc => hblank c (List.mem_reverse.mp hc)⟩
  rw [trimEnd, ← List.reverse_append, ← heq, List.reverse_reverse]

theorem trimEnd_append {after : List Char} (h : ∀ c ∈ after, isBlank c = true)
    (cs : List Char) : trimEnd (cs ++ after) = trimEnd cs := by
  have hreverse : ∀ c ∈ after.reverse, isBlank c = true :=
    fun c hc => h c (List.mem_reverse.mp hc)
  rw [trimEnd, List.reverse_append, trimStart_append hreverse, ← trimEnd]

theorem trimEnd_eq_self {cs : List Char} (h : ∀ c ∈ cs.getLast?, isBlank c = false) :
    trimEnd cs = cs := by
  have hhead : ∀ c ∈ cs.reverse.head?, isBlank c = false := by
    rw [List.head?_reverse]
    exact h
  rw [trimEnd, trimStart_eq_self hhead, List.reverse_reverse]

/-! ## both ends -/

/-- What is taken away at the ends is white space. -/
theorem exists_eq_append_trim (cs : List Char) :
    ∃ before after, cs = before ++ trim cs ++ after ∧
      (∀ c ∈ before, isBlank c = true) ∧ ∀ c ∈ after, isBlank c = true := by
  obtain ⟨before, hstart, hbefore⟩ := exists_eq_append_trimStart cs
  obtain ⟨after, hend, hafter⟩ := exists_eq_trimEnd_append (trimStart cs)
  refine ⟨before, after, ?_, hbefore, hafter⟩
  rw [trim, List.append_assoc, ← hend]
  exact hstart

/-- White space at the ends makes no difference. -/
theorem trim_append {before after : List Char} (hbefore : ∀ c ∈ before, isBlank c = true)
    (hafter : ∀ c ∈ after, isBlank c = true) (cs : List Char) :
    trim (before ++ cs ++ after) = trim cs := by
  rw [trim, List.append_assoc, trimStart_append hbefore]
  by_cases hempty : trimStart cs = []
  · -- The text is white space throughout, and so is what is put behind it.
    have hall : trimStart (cs ++ after) = [] := by
      rw [trimStart, List.dropWhile_append, ← trimStart, hempty]
      exact trimStart_eq_nil hafter
    rw [hall, trim, hempty]
  · have hfront : trimStart (cs ++ after) = trimStart cs ++ after := by
      rw [trimStart, List.dropWhile_append, ← trimStart, if_neg (by simpa using hempty)]
    rw [hfront, trimEnd_append hafter, ← trim]

theorem trim_eq_self {cs : List Char} (hhead : ∀ c ∈ cs.head?, isBlank c = false)
    (hlast : ∀ c ∈ cs.getLast?, isBlank c = false) : trim cs = cs := by
  rw [trim, trimStart_eq_self hhead, trimEnd_eq_self hlast]

end ComponentBrowser.Text
