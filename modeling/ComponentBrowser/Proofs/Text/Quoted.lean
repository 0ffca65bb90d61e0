import ComponentBrowser.Text.Quoted

/-!
# ComponentBrowser.Proofs.Text.Quoted

Quoted text shows: all of its characters are visible ones, whatever it quotes.
So it holds no control character, and stays on the line that it stands on.

* `allVisible_append`, `allVisible_join`, `allVisible_intercalate` — texts put
  together from visible ones;
* `allVisible_quoted`, `allVisible_quotedBytes` — what is quoted is visible;
* `newline_not_mem_quoted` — a quoted text holds no line break.
-/

namespace ComponentBrowser.Text

/-! ## visible texts -/

/-- All characters of a text show on their own. -/
def AllVisible (s : String) : Prop := ∀ c ∈ s.toList, isVisible c = true

instance (s : String) : Decidable (AllVisible s) :=
  decidable_of_iff (s.toList.all isVisible = true) List.all_eq_true

theorem allVisible_ofList {cs : List Char} (h : cs.all isVisible = true) :
    AllVisible (String.ofList cs) := by
  intro c hc
  rw [String.toList_ofList] at hc
  exact List.all_eq_true.mp h c hc

theorem allVisible_append {s t : String} : AllVisible (s ++ t) ↔ AllVisible s ∧ AllVisible t := by
  rw [AllVisible, String.toList_append, List.forall_mem_append]
  rfl

theorem allVisible_enclosed {front t back : String} (hfront : AllVisible front)
    (ht : AllVisible t) (hback : AllVisible back) : AllVisible (front ++ t ++ back) := by
  rw [allVisible_append, allVisible_append]
  exact ⟨⟨hfront, ht⟩, hback⟩

theorem allVisible_join {ts : List String} (h : ∀ t ∈ ts, AllVisible t) :
    AllVisible (String.join ts) := by
  intro c hc
  rw [String.toList_join] at hc
  obtain ⟨t, ht, hc⟩ := List.mem_flatMap.mp hc
  exact h t ht c hc

theorem allVisible_intercalate {separator : String} {ts : List String}
    (hseparator : AllVisible separator) (h : ∀ t ∈ ts, AllVisible t) :
    AllVisible (separator.intercalate ts) := by
  induction ts with
  | nil => exact nofun
  | cons t rest ih =>
      obtain ⟨ht, hrest⟩ := List.forall_mem_cons.mp h
      cases rest with
      | nil => rwa [String.intercalate_singleton]
      | cons u rest =>
          rw [String.intercalate_cons_cons, allVisible_append, allVisible_append]
          exact ⟨⟨ht, hseparator⟩, ih hrest⟩

/-- A character that shows on its own is no control character. -/
theorem le_of_isVisible {c : Char} (h : isVisible c = true) : 0x20 ≤ c.toNat := by
  unfold isVisible at h
  split at h
  · exact of_decide_eq_true h
  · omega

/-- A visible text stays on one line. -/
theorem AllVisible.newline_not_mem {s : String} (h : AllVisible s) : '\n' ∉ s.toList := by
  intro hmem
  exact absurd (le_of_isVisible (h _ hmem)) (by decide)

/-! ## digits -/

theorem isVisible_digitChar : (n : Nat) → isVisible n.digitChar = true
  | 0 | 1 | 2 | 3 | 4 | 5 | 6 | 7 | 8 | 9 | 10 | 11 | 12 | 13 | 14 | 15 => by decide
  | n + 16 => by simp [Nat.digitChar, isVisible]

theorem le_toNat_digitChar (n : Nat) : 0x20 ≤ n.digitChar.toNat :=
  le_of_isVisible (isVisible_digitChar n)

/-- What holds of each digit holds of all that are written. -/
theorem of_mem_toDigits {p : Char → Prop} (h : ∀ m < 16, p m.digitChar) {n : Nat} {c : Char}
    (hc : c ∈ Nat.toDigits 16 n) : p c := by
  induction n using Nat.strongRecOn with
  | ind n ih =>
      rw [Nat.toDigits_eq_if (by decide)] at hc
      split at hc
      · next hn =>
          rw [List.mem_singleton.mp hc]
          exact h n hn
      · rcases List.mem_append.mp hc with hfront | hlast
        · exact ih (n / 16) (by omega) hfront
        · rw [List.mem_singleton.mp hlast]
          exact h _ (Nat.mod_lt n (by decide))

theorem isVisible_of_mem_toDigits {n : Nat} {c : Char} (h : c ∈ Nat.toDigits 16 n) :
    isVisible c = true :=
  of_mem_toDigits (p := fun c => isVisible c = true) (fun m _ => isVisible_digitChar m) h

/-! ## escapes -/

/-- The characters of a text that was looked through. -/
theorem le_of_mem_of_all {cs : List Char} (h : cs.all (fun c => 0x20 ≤ c.toNat) = true)
    {d : Char} (hd : d ∈ cs) : 0x20 ≤ d.toNat :=
  of_decide_eq_true (List.all_eq_true.mp h d hd)

theorem isVisible_of_mem_codePointEscape {c d : Char} (h : d ∈ codePointEscape c) :
    isVisible d = true := by
  rw [codePointEscape, List.mem_append, List.mem_append] at h
  obtain (hopen | hdigits) | hclose := h
  · exact List.all_eq_true.mp (by decide) d hopen
  · exact isVisible_of_mem_toDigits hdigits
  · exact List.all_eq_true.mp (by decide) d hclose

/-- The escape of a character is visible. -/
theorem isVisible_of_mem_escape {c d : Char} (h : d ∈ escape c) : isVisible d = true := by
  unfold escape at h
  repeat' split at h
  iterate 6
    · exact List.all_eq_true.mp (by decide) d h
  · next hvisible =>
      rw [List.mem_singleton.mp h]
      exact hvisible
  · exact isVisible_of_mem_codePointEscape h

theorem isVisible_of_mem_escapeByte {b : UInt8} {d : Char} (h : d ∈ escapeByte b) :
    isVisible d = true := by
  have hdigit : ∀ n < 16, isVisible (Nat.digitChar n).toUpper = true := by decide
  have hlow : b.toNat % 16 < 16 := Nat.mod_lt _ (by decide)
  have hhigh : b.toNat / 16 < 16 := by
    have hb := b.toNat_lt
    omega
  simp only [escapeByte, List.mem_cons, List.not_mem_nil, or_false] at h
  obtain rfl | rfl | rfl | rfl := h
  · decide
  · decide
  · exact hdigit _ hhigh
  · exact hdigit _ hlow

theorem isVisible_of_mem_escapeSegment {segment : Utf8.Segment} {d : Char}
    (h : d ∈ escapeSegment segment) : isVisible d = true := by
  cases segment with
  | scalar c => exact isVisible_of_mem_escape h
  | broken bytes =>
      obtain ⟨b, -, hb⟩ := List.mem_flatMap.mp h
      exact isVisible_of_mem_escapeByte hb

/-! ## quoted text -/

/-- What stands between quotes is visible if it is so piece by piece. -/
theorem allVisible_between_quotes {α : Type} {pieces : List α} {shown : α → List Char}
    (h : ∀ piece d, d ∈ shown piece → isVisible d = true) :
    AllVisible (String.ofList (['"'] ++ pieces.flatMap shown ++ ['"'])) := by
  intro d hd
  rw [String.toList_ofList, List.mem_append, List.mem_append] at hd
  obtain (hopen | hinside) | hclose := hd
  · exact List.all_eq_true.mp (by decide) d hopen
  · obtain ⟨piece, -, hpiece⟩ := List.mem_flatMap.mp hinside
    exact h piece d hpiece
  · exact List.all_eq_true.mp (by decide) d hclose

/-- A quoted text is visible, whatever the text is. -/
theorem allVisible_quoted (s : String) : AllVisible (quoted s) :=
  allVisible_between_quotes fun _ _ => isVisible_of_mem_escape

/-- Quoted bytes are visible, whether they are text or not. -/
theorem allVisible_quotedBytes (bytes : Bytes) : AllVisible (quotedBytes bytes) :=
  allVisible_between_quotes fun _ _ => isVisible_of_mem_escapeSegment

/-- Quoted text stays on one line, whatever the text is. -/
theorem newline_not_mem_quoted (s : String) : '\n' ∉ (quoted s).toList :=
  (allVisible_quoted s).newline_not_mem

end ComponentBrowser.Text
