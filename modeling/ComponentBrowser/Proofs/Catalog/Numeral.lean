import ComponentBrowser.Proofs.Catalog.Separator

/-!
# ComponentBrowser.Proofs.Catalog.Numeral

Signs and numerals, the parts that an index is written with.

```
sign     ::=  '+' | '-'
numeral  ::=  digit | digit numeral | digit '_' numeral
```

* `text_append_unsigned` — a text is its sign and what stands behind it;
* `numeral_iff` — a text is a numeral exactly when its underscores stand where
  they may and it is digits without them.
-/

namespace ComponentBrowser.Component.Index

open Decimal (isDigit)

/-! ## signs -/

/-- The sign in front of a number, if there is one. -/
inductive Sign where
  | none
  | plus
  | minus
  deriving DecidableEq

namespace Sign

/-- A sign as it is written. -/
def text : Sign → List Char
  | none => []
  | plus => ['+']
  | minus => ['-']

/-- The integer that a number with a sign in front of it stands for. -/
def apply : Sign → Nat → Int
  | none, n | plus, n => n
  | minus, n => -(n : Int)

/-- The greatest number in range behind a sign. -/
def limit : Sign → Nat
  | none | plus => greatest
  | minus => leastSize

/-- The sign at the front of a text. -/
def of (cs : List Char) : Sign :=
  if cs.head? = some '-' then minus else if cs.head? = some '+' then plus else none

end Sign

/-- What stands behind the sign. -/
def unsigned (cs : List Char) : List Char := cs.drop (Sign.of cs).text.length

theorem text_append_unsigned (cs : List Char) : (Sign.of cs).text ++ unsigned cs = cs := by
  cases cs with
  | nil => rfl
  | cons c rest =>
      by_cases hminus : c = '-'
      · subst hminus; rfl
      · by_cases hplus : c = '+'
        · subst hplus; rfl
        · simp [unsigned, Sign.of, hminus, hplus, Sign.text]

/-- A sign in front of a digit is the sign of the text. -/
theorem of_text_append (sign : Sign) {cs : List Char} (h : startsWithDigit cs = true) :
    Sign.of (sign.text ++ cs) = sign ∧ unsigned (sign.text ++ cs) = cs := by
  have hof : Sign.of (sign.text ++ cs) = sign := by
    cases sign with
    | plus | minus => rfl
    | none =>
        cases cs with
        | nil => rfl
        | cons c rest =>
            have hc : isDigit c = true := h
            have hminus : c ≠ '-' := by rintro rfl; contradiction
            have hplus : c ≠ '+' := by rintro rfl; contradiction
            simp [Sign.text, Sign.of, hminus, hplus]
  refine ⟨hof, ?_⟩
  rw [unsigned, hof, List.drop_left]

/-- Underscores that may stand there leave the sign alone. -/
theorem head?_plain {cs : List Char} (h : Separated false cs) :
    (plain cs).head? = cs.head? := by
  cases cs with
  | nil => rfl
  | cons c rest =>
      have hc : c ≠ '_' := by
        rintro rfl
        have hfront := ((separated_cons false '_' rest).mp h).1 rfl
        exact absurd hfront.1 (by decide)
      rw [plain_cons_of_ne hc]
      rfl

theorem of_plain {cs : List Char} (h : Separated false cs) :
    Sign.of (plain cs) = Sign.of cs := by
  rw [Sign.of, Sign.of, head?_plain h]

theorem unsigned_plain {cs : List Char} (h : Separated false cs) :
    unsigned (plain cs) = plain (unsigned cs) := by
  have hplain : plain cs = (Sign.of cs).text ++ plain (unsigned cs) := by
    have hsign : plain (Sign.of cs).text = (Sign.of cs).text := by cases Sign.of cs <;> rfl
    rw [← hsign, plain, plain, plain, ← List.filter_append, text_append_unsigned]
  rw [unsigned, of_plain h, hplain, List.drop_left]

/-- A sign has no say in where underscores may stand. -/
theorem separated_text_append (sign : Sign) (cs : List Char) :
    Separated false (sign.text ++ cs) ↔ Separated false cs := by
  cases sign with
  | none => rfl
  | plus | minus =>
      rw [Sign.text, List.singleton_append, separated_cons]
      exact and_iff_right (fun h => absurd h (by decide))

theorem separated_unsigned (cs : List Char) :
    Separated false (unsigned cs) ↔ Separated false cs := by
  rw [← separated_text_append (Sign.of cs) (unsigned cs), text_append_unsigned]

/-! ## numerals -/

/-- One or more digits, between any two of which one underscore may stand. -/
inductive Numeral : List Char → Prop where
  | digit {c : Char} (hc : isDigit c = true) : Numeral [c]
  | next {c : Char} {cs : List Char} (hc : isDigit c = true) (h : Numeral cs) :
      Numeral (c :: cs)
  | grouped {c : Char} {cs : List Char} (hc : isDigit c = true) (h : Numeral cs) :
      Numeral (c :: '_' :: cs)

/-- The number that a numeral writes. -/
def numeralValue (cs : List Char) : Nat := Decimal.value (plain cs)

theorem ne_underscore_of_isDigit {c : Char} (h : isDigit c = true) : c ≠ '_' := by
  rintro rfl
  contradiction

theorem Numeral.startsWithDigit {cs : List Char} (h : Numeral cs) :
    startsWithDigit cs = true := by
  cases h with
  | digit hc => exact hc
  | next hc _ => exact hc
  | grouped hc _ => exact hc

theorem Numeral.separated {cs : List Char} (h : Numeral cs) (afterDigit : Bool) :
    Separated afterDigit cs := by
  induction h generalizing afterDigit with
  | digit hc =>
      rw [separated_cons]
      exact ⟨fun h => absurd h (ne_underscore_of_isDigit hc), separated_nil _⟩
  | next hc _ ih =>
      rw [separated_cons]
      exact ⟨fun h => absurd h (ne_underscore_of_isDigit hc), ih _⟩
  | grouped hc h ih =>
      rw [separated_cons, separated_cons]
      exact ⟨fun h => absurd h (ne_underscore_of_isDigit hc),
        fun _ => ⟨hc, h.startsWithDigit⟩, ih _⟩

theorem Numeral.plain_ne_nil {cs : List Char} (h : Numeral cs) : plain cs ≠ [] := by
  have hstart := h.startsWithDigit
  rw [Index.startsWithDigit, ← head?_plain (h.separated false)] at hstart
  intro hnil
  rw [hnil] at hstart
  contradiction

theorem Numeral.isDigit_of_mem_plain {cs : List Char} (h : Numeral cs) :
    ∀ c ∈ plain cs, isDigit c = true := by
  induction h with
  | digit hc =>
      rw [plain_cons_of_ne (ne_underscore_of_isDigit hc)]
      exact List.forall_mem_cons.mpr ⟨hc, by simp [plain]⟩
  | next hc _ ih =>
      rw [plain_cons_of_ne (ne_underscore_of_isDigit hc)]
      exact List.forall_mem_cons.mpr ⟨hc, ih⟩
  | grouped hc _ ih =>
      rw [plain_cons_of_ne (ne_underscore_of_isDigit hc), plain_cons_underscore]
      exact List.forall_mem_cons.mpr ⟨hc, ih⟩

/-- A text whose underscores stand where they may, and that is digits without
them, is a numeral, or goes on one. -/
theorem numeral_of_separated {afterDigit : Bool} {cs : List Char}
    (hseparated : Separated afterDigit cs) (hdigits : ∀ c ∈ plain cs, isDigit c = true) :
    (afterDigit = true → ∀ c, isDigit c = true → Numeral (c :: cs)) ∧
      (afterDigit = false → cs ≠ [] → Numeral cs) := by
  induction cs generalizing afterDigit with
  | nil => exact ⟨fun _ c hc => .digit hc, fun _ h => absurd rfl h⟩
  | cons d rest ih =>
      obtain ⟨hhead, hrest⟩ := (separated_cons afterDigit d rest).mp hseparated
      by_cases hd : d = '_'
      · subst hd
        obtain ⟨rfl, hnext⟩ := hhead rfl
        have hne : rest ≠ [] := by
          rintro rfl
          exact Bool.false_ne_true hnext
        have hnumeral : Numeral rest := (ih hrest hdigits).2 rfl hne
        exact ⟨fun _ c hc => .grouped hc hnumeral, fun h => by contradiction⟩
      · rw [plain_cons_of_ne hd, List.forall_mem_cons] at hdigits
        have hnumeral : Numeral (d :: rest) := (ih hrest hdigits.2).1 hdigits.1 d hdigits.1
        exact ⟨fun _ c hc => .next hc hnumeral, fun _ _ => hnumeral⟩

/-- Numerals, in the terms of the pass that takes the underscores out. -/
theorem numeral_iff (cs : List Char) :
    Numeral cs ↔ Separated false cs ∧ cs ≠ [] ∧ ∀ c ∈ plain cs, isDigit c = true := by
  constructor
  · intro h
    refine ⟨h.separated false, ?_, h.isDigit_of_mem_plain⟩
    rintro rfl
    cases h
  · rintro ⟨hseparated, hne, hdigits⟩
    exact (numeral_of_separated hseparated hdigits).2 rfl hne

/-- Whether the underscores of a text stand where they may is decided by
taking them out. -/
instance (afterDigit : Bool) (cs : List Char) : Decidable (Separated afterDigit cs) :=
  decidable_of_iff ((dropSeparators afterDigit cs).isSome = true)
    ⟨fun h => separated_of_dropSeparators (Option.some_get h).symm,
      fun h => by rw [dropSeparators_of_separated h]; rfl⟩

instance (cs : List Char) : Decidable (Numeral cs) :=
  decidable_of_iff (Separated false cs ∧ cs ≠ [] ∧ (plain cs).all isDigit = true)
    (by rw [numeral_iff, List.all_eq_true])

end ComponentBrowser.Component.Index
