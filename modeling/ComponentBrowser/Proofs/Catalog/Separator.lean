import ComponentBrowser.Catalog.Index

/-!
# ComponentBrowser.Proofs.Catalog.Separator

The underscores of an index.  `dropSeparators` takes them out in one pass that
remembers the last character and looks at the next one; `Separated` says of a
whole text that its underscores stand where they may.

* `separated_cons` — the condition, one character at a time;
* `dropSeparators_of_separated` — a text that meets it loses its underscores;
* `separated_of_dropSeparators` — no other text gets through;
* `separated_iff_betweenDigits` — the condition, at every position at once;
* `dropSeparators_iff_betweenDigits` — the pass in terms of positions.
-/

namespace ComponentBrowser.Component.Index

open Decimal (isDigit)

/-! ## where underscores may stand -/

/-- Whether a digit stands at the end of a text, or before it if it is empty. -/
def endsInDigit (afterDigit : Bool) (cs : List Char) : Bool :=
  (cs.getLast?.map isDigit).getD afterDigit

/-- Whether a text begins with a digit. -/
def startsWithDigit (cs : List Char) : Bool := (cs.head?.map isDigit).getD false

/-- Every underscore stands between two digits, where `afterDigit` tells
whether a digit stands before the text. -/
def Separated (afterDigit : Bool) (cs : List Char) : Prop :=
  ∀ before after, cs = before ++ '_' :: after →
    endsInDigit afterDigit before = true ∧ startsWithDigit after = true

/-- A text without its underscores. -/
def plain (cs : List Char) : List Char := cs.filter (· ≠ '_')

theorem endsInDigit_cons (afterDigit : Bool) (c : Char) (cs : List Char) :
    endsInDigit afterDigit (c :: cs) = endsInDigit (isDigit c) cs := by
  cases cs with
  | nil => rfl
  | cons d cs => rw [endsInDigit, endsInDigit, List.getLast?_cons_cons]; rfl

theorem separated_nil (afterDigit : Bool) : Separated afterDigit [] := by
  intro before after h
  exact absurd h (by simp)

/-- The condition on a text is one on its first character and one on the rest. -/
theorem separated_cons (afterDigit : Bool) (c : Char) (rest : List Char) :
    Separated afterDigit (c :: rest) ↔
      (c = '_' → afterDigit = true ∧ startsWithDigit rest = true) ∧
      Separated (isDigit c) rest := by
  constructor
  · intro h
    refine ⟨?_, ?_⟩
    · rintro rfl
      exact h [] rest rfl
    · rintro before after rfl
      have hcons := h (c :: before) after rfl
      rw [endsInDigit_cons] at hcons
      exact hcons
  · rintro ⟨hhead, hrest⟩ before after heq
    cases before with
    | nil =>
        obtain ⟨rfl, rfl⟩ := List.cons.inj heq
        exact hhead rfl
    | cons d before =>
        obtain ⟨rfl, htail⟩ := List.cons.inj heq
        rw [endsInDigit_cons]
        exact hrest before after htail

theorem plain_cons_underscore (cs : List Char) : plain ('_' :: cs) = plain cs := rfl

theorem plain_cons_of_ne {c : Char} (hc : c ≠ '_') (cs : List Char) :
    plain (c :: cs) = c :: plain cs := by
  rw [plain, List.filter_cons_of_pos (by simpa using hc), plain]

/-! ## taking them out -/

/-- The underscores of a text are taken out if all of them may stand there. -/
theorem dropSeparators_of_separated {afterDigit : Bool} {cs : List Char}
    (h : Separated afterDigit cs) : dropSeparators afterDigit cs = some (plain cs) := by
  induction cs generalizing afterDigit with
  | nil => rfl
  | cons c rest ih =>
      obtain ⟨hhead, hrest⟩ := (separated_cons afterDigit c rest).mp h
      rw [dropSeparators]
      by_cases hc : c = '_'
      · obtain ⟨hbefore, hafter⟩ := hhead hc
        subst hc
        rw [if_pos rfl, if_pos (by rw [hbefore]; exact hafter), plain_cons_underscore]
        exact ih hrest
      · rw [if_neg hc, ih hrest, plain_cons_of_ne hc]
        rfl

/-- Where the underscores are taken out, all of them may stand there. -/
theorem separated_of_dropSeparators {afterDigit : Bool} {cs out : List Char}
    (h : dropSeparators afterDigit cs = some out) : Separated afterDigit cs := by
  induction cs generalizing afterDigit out with
  | nil => exact separated_nil afterDigit
  | cons c rest ih =>
      rw [dropSeparators] at h
      rw [separated_cons]
      by_cases hc : c = '_'
      · subst hc
        rw [if_pos rfl] at h
        split at h
        · next hboth =>
            rw [Bool.and_eq_true] at hboth
            exact ⟨fun _ => hboth, ih h⟩
        · contradiction
      · rw [if_neg hc, Option.map_eq_some_iff] at h
        obtain ⟨kept, hkept, -⟩ := h
        exact ⟨fun hc' => absurd hc' hc, ih hkept⟩

/-! ## positions -/

/-- A digit stands at a position of a text. -/
def DigitAt (cs : List Char) (i : Nat) : Prop := ∃ c, cs[i]? = some c ∧ isDigit c = true

/-- A digit stands immediately before a position and one immediately after it. -/
def BetweenDigits (cs : List Char) (i : Nat) : Prop :=
  (∃ j, i = j + 1 ∧ DigitAt cs j) ∧ DigitAt cs (i + 1)

theorem startsWithDigit_iff (cs : List Char) : startsWithDigit cs = true ↔ DigitAt cs 0 := by
  cases cs <;> simp [startsWithDigit, DigitAt]

/-- At the front of a text there is no digit before it to end in. -/
theorem endsInDigit_false_iff (cs : List Char) :
    endsInDigit false cs = true ↔ ∃ j, cs.length = j + 1 ∧ DigitAt cs j := by
  rcases List.eq_nil_or_concat cs with rfl | ⟨front, c, rfl⟩
  · simp [endsInDigit]
  · simp [endsInDigit, DigitAt]

/-- What stands around a character is the end of the text before it and the
beginning of the text behind it. -/
theorem betweenDigits_append (before : List Char) (c : Char) (after : List Char) :
    BetweenDigits (before ++ c :: after) before.length ↔
      endsInDigit false before = true ∧ startsWithDigit after = true := by
  have hbefore : ∀ j, before.length = j + 1 →
      (DigitAt (before ++ c :: after) j ↔ DigitAt before j) := by
    intro j hj
    have hlt : j < before.length := by omega
    rw [DigitAt, DigitAt, List.getElem?_append_left hlt]
  have hafter : DigitAt (before ++ c :: after) (before.length + 1) ↔ DigitAt after 0 := by
    rw [DigitAt, DigitAt, List.getElem?_append_right (Nat.le_succ _)]
    simp
  rw [BetweenDigits, hafter, endsInDigit_false_iff, startsWithDigit_iff]
  exact and_congr_left' (exists_congr fun j => and_congr_right (hbefore j))

theorem separated_iff_betweenDigits (cs : List Char) :
    Separated false cs ↔ ∀ i, cs[i]? = some '_' → BetweenDigits cs i := by
  constructor
  · intro h i hi
    obtain ⟨hlt, hget⟩ := List.getElem?_eq_some_iff.mp hi
    have hsplit : cs = cs.take i ++ '_' :: cs.drop (i + 1) := by
      rw [← hget, List.getElem_cons_drop, List.take_append_drop]
    have hlength : (cs.take i).length = i := List.length_take_of_le (Nat.le_of_lt hlt)
    have hbetween := (betweenDigits_append _ '_' _).mpr (h _ _ hsplit)
    rw [← hsplit, hlength] at hbetween
    exact hbetween
  · rintro h before after rfl
    have hhere : (before ++ '_' :: after)[before.length]? = some '_' := by simp
    exact (betweenDigits_append before '_' after).mp (h _ hhere)

/-- **The pass over a text tells what holds at every position**: it gives a
text exactly if each underscore has a digit immediately before it and one
immediately after it, and that is the text with all underscores left out and
everything else kept in order.  Otherwise it gives none. -/
theorem dropSeparators_iff_betweenDigits (text : String) (out : List Char) :
    (dropSeparators false text.toList = some out ↔
      (∀ i, text.toList[i]? = some '_' → BetweenDigits text.toList i) ∧
        out = text.toList.filter (· ≠ '_')) ∧
    (dropSeparators false text.toList = none ↔
      ¬∀ i, text.toList[i]? = some '_' → BetweenDigits text.toList i) := by
  rw [← separated_iff_betweenDigits]
  by_cases h : Separated false text.toList
  · rw [dropSeparators_of_separated h, plain]
    simp [h, eq_comm]
  · have hnone : dropSeparators false text.toList = none := by
      rw [Option.eq_none_iff_forall_ne_some]
      exact fun kept hkept => h (separated_of_dropSeparators hkept)
    simp [h, hnone]

end ComponentBrowser.Component.Index
