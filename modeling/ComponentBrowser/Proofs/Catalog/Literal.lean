import ComponentBrowser.Proofs.Catalog.Numeral
import ComponentBrowser.Proofs.Text.Trim
import ComponentBrowser.Run
import Mathlib.Algebra.Ring.Int.Defs
import Mathlib.Algebra.Ring.Nat

/-!
# ComponentBrowser.Proofs.Catalog.Literal

Which texts denote an index, and which.

```
literal  ::=  blank* sign? numeral blank*
```

`Literal text n` says that a text is a literal of the integer `n`, however
great.  `Component.Index.parse` reads a text in three passes: it trims, takes
the underscores out, and reads a sign and digits up to the limit of 64 bits.

* `parse_of_separated` — the first two passes in terms of the text;
* `parse_literal` — literals are read as their integer, and nothing else is
  read as one;
* `parse_of_not_literal` — other texts are malformed, save those whose digits
  exceed the limit before the character that makes them malformed.
-/

namespace ComponentBrowser.Component.Index

open Decimal (isDigit)
open Text (isBlank trim)

/-! ## reading digits -/

/-- The number that digits stand for behind those that stand for `n`. -/
def valueFrom (n : Nat) (cs : List Char) : Nat :=
  cs.foldl (fun n c => 10 * n + Decimal.digitValue c) n

/-- Digits are read as a number exactly when it is within the bound. -/
theorem readDigits_eq_number_iff {bound n : Nat} (hn : n ≤ bound) (cs : List Char) (m : Nat) :
    readDigits bound n cs = .number m ↔
      (∀ c ∈ cs, isDigit c = true) ∧ valueFrom n cs = m ∧ m ≤ bound := by
  constructor
  · intro h
    induction cs generalizing n with
    | nil =>
        injection h with h
        subst h
        exact ⟨by simp, rfl, hn⟩
    | cons c rest ih =>
        rw [readDigits] at h
        split at h
        · next hc =>
            dsimp only at h
            split at h
            · next hbound =>
                obtain ⟨hrest, hvalue, hm⟩ := ih hbound h
                exact ⟨List.forall_mem_cons.mpr ⟨hc, hrest⟩, hvalue, hm⟩
            · contradiction
        · contradiction
  · rintro ⟨hdigits, rfl, hm⟩
    exact readDigits_eq_number bound n cs hdigits hm

/-- Digits are too large exactly when those at the front of the text already
are, whatever follows them. -/
theorem readDigits_eq_tooLarge_iff {bound n : Nat} (hn : n ≤ bound) (cs : List Char) :
    readDigits bound n cs = .tooLarge ↔
      ∃ digits rest, cs = digits ++ rest ∧ (∀ c ∈ digits, isDigit c = true) ∧
        bound < valueFrom n digits := by
  constructor
  · intro h
    induction cs generalizing n with
    | nil => contradiction
    | cons c rest ih =>
        rw [readDigits] at h
        split at h
        · next hc =>
            dsimp only at h
            split at h
            · next hbound =>
                obtain ⟨digits, behind, rfl, hdigits, hlarge⟩ := ih hbound h
                exact ⟨c :: digits, behind, rfl, List.forall_mem_cons.mpr ⟨hc, hdigits⟩, hlarge⟩
            · next hbound =>
                refine ⟨[c], rest, rfl, by simp [hc], ?_⟩
                exact Nat.lt_of_not_le hbound
        · contradiction
  · rintro ⟨digits, rest, rfl, hdigits, hlarge⟩
    induction digits generalizing n with
    | nil => exact absurd hlarge (Nat.not_lt_of_le hn)
    | cons c digits ih =>
        obtain ⟨hc, hdigits⟩ := List.forall_mem_cons.mp hdigits
        rw [List.cons_append, readDigits, if_pos hc]
        dsimp only
        split
        · next hbound => exact ih hbound hdigits hlarge
        · rfl

/-! ## reading a text -/

/-- What the digits behind a sign are read as. -/
def readSigned (text : String) (sign : Sign) (digits : List Char) : Except Error Int :=
  if digits = [] then .error (.malformedIndex text)
  else match readDigits sign.limit 0 digits with
    | .number n => .ok (sign.apply n)
    | .tooLarge => .error (.invalidIndex (sign.apply sign.limit))
    | .noNumber => .error (.malformedIndex text)

/-- Digits behind a sign are read as an integer exactly when there are some and
their number is within the limit. -/
theorem readSigned_eq_ok_iff (text : String) (sign : Sign) (cs : List Char) (i : Int) :
    readSigned text sign cs = .ok i ↔
      cs ≠ [] ∧ (∀ c ∈ cs, isDigit c = true) ∧ Decimal.value cs ≤ sign.limit ∧
        i = sign.apply (Decimal.value cs) := by
  have hnumber := readDigits_eq_number_iff (Nat.zero_le sign.limit) cs
  rw [readSigned]
  by_cases hne : cs = []
  · simp [hne]
  · rw [if_neg hne]
    constructor
    · intro h
      split at h
      · next n hread =>
          obtain ⟨hdigits, rfl, hlimit⟩ := (hnumber n).mp hread
          injection h with h
          exact ⟨hne, hdigits, hlimit, h.symm⟩
      · contradiction
      · contradiction
    · rintro ⟨-, hdigits, hlimit, rfl⟩
      rw [(hnumber _).mpr ⟨hdigits, rfl, hlimit⟩]
      rfl

/-- Digits behind a sign are out of range exactly when those at the front
exceed the limit already. -/
theorem readSigned_eq_invalidIndex_iff (text : String) (sign : Sign) (cs : List Char) (i : Int) :
    readSigned text sign cs = .error (.invalidIndex i) ↔
      (∃ digits rest, cs = digits ++ rest ∧ (∀ c ∈ digits, isDigit c = true) ∧
        sign.limit < Decimal.value digits) ∧ i = sign.apply sign.limit := by
  have hlarge : readDigits sign.limit 0 cs = .tooLarge ↔ ∃ digits rest, cs = digits ++ rest ∧
      (∀ c ∈ digits, isDigit c = true) ∧ sign.limit < Decimal.value digits :=
    readDigits_eq_tooLarge_iff (Nat.zero_le sign.limit) cs
  rw [readSigned, ← hlarge]
  by_cases hne : cs = []
  · simp [hne, readDigits]
  · rw [if_neg hne]
    cases readDigits sign.limit 0 cs <;> simp [eq_comm]

/-- Whatever is neither of these is malformed. -/
theorem readSigned_cases (text : String) (sign : Sign) (cs : List Char) :
    (∃ i, readSigned text sign cs = .ok i) ∨
      (∃ i, readSigned text sign cs = .error (.invalidIndex i)) ∨
      readSigned text sign cs = .error (.malformedIndex text) := by
  rw [readSigned]
  by_cases hne : cs = []
  · exact .inr (.inr (if_pos hne))
  · rw [if_neg hne]
    cases readDigits sign.limit 0 cs with
    | number n => exact .inl ⟨_, rfl⟩
    | tooLarge => exact .inr (.inl ⟨_, rfl⟩)
    | noNumber => exact .inr (.inr rfl)

/-- A text whose underscores stand where they may is read as its sign and its
digits. -/
theorem parse_of_separated {text : String} (h : Separated false (trim text.toList)) :
    parse text =
      readSigned text (Sign.of (trim text.toList)) (plain (unsigned (trim text.toList))) := by
  rw [← of_plain h, ← unsigned_plain h, parse, dropSeparators_of_separated h, unsigned, Sign.of]
  generalize plain (trim text.toList) = cs
  by_cases hminus : cs.head? = some '-'
  · simp only [hminus, beq_self_eq_true, Bool.true_or, if_true]
    rfl
  · by_cases hplus : cs.head? = some '+'
    · have hsign : (some '+' == some '-') = false := rfl
      simp only [hplus, hsign, beq_self_eq_true, Bool.or_true, if_true]
      rfl
    · simp only [beq_false_of_ne hminus, beq_false_of_ne hplus, if_neg hminus, if_neg hplus]
      rfl

/-! ## literals -/

/-- The text is a literal of the integer `n`: a numeral that may have a sign in
front of it and white space around both. -/
def Literal (text : String) (n : Int) : Prop :=
  ∃ before sign cs after, text.toList = before ++ (Sign.text sign ++ cs) ++ after ∧
    (∀ c ∈ before, isBlank c = true) ∧ (∀ c ∈ after, isBlank c = true) ∧
    Numeral cs ∧ n = sign.apply (numeralValue cs)

theorem isBlank_of_isDigit {c : Char} (h : isDigit c = true) : isBlank c = false := by
  rw [isDigit, Bool.and_eq_true, decide_eq_true_eq, decide_eq_true_eq] at h
  exact Text.isBlank_eq_false_of_ascii (by omega) (by omega)

theorem Numeral.isDigit_of_mem_getLast? {cs : List Char} (h : Numeral cs) :
    ∀ c ∈ cs.getLast?, isDigit c = true := by
  induction h with
  | digit hc =>
      rintro c ⟨⟩
      exact hc
  | next _ h ih =>
      rw [List.getLast?_cons_of_ne_nil ((numeral_iff _).mp h).2.1]
      exact ih
  | grouped _ h ih =>
      rw [List.getLast?_cons_cons, List.getLast?_cons_of_ne_nil ((numeral_iff _).mp h).2.1]
      exact ih

/-- There is no white space at the ends of a numeral with a sign. -/
theorem trim_text_append (sign : Sign) {cs : List Char} (h : Numeral cs) :
    trim (sign.text ++ cs) = sign.text ++ cs := by
  have hne : cs ≠ [] := ((numeral_iff cs).mp h).2.1
  apply Text.trim_eq_self
  · cases sign with
    | plus | minus =>
        rintro c ⟨⟩
        exact Text.isBlank_eq_false_of_ascii (by decide) (by decide)
    | none =>
        intro c hc
        have hdigit := h.startsWithDigit
        rw [startsWithDigit, show cs.head? = some c from hc] at hdigit
        exact isBlank_of_isDigit hdigit
  · intro c hc
    rw [List.getLast?_append, List.getLast?_eq_some_getLast hne, Option.some_or,
      ← List.getLast?_eq_some_getLast hne] at hc
    exact isBlank_of_isDigit (h.isDigit_of_mem_getLast? c hc)

/-- Literals, in the terms of the passes that read them. -/
theorem literal_iff (text : String) (n : Int) :
    Literal text n ↔ Numeral (unsigned (trim text.toList)) ∧
      n = (Sign.of (trim text.toList)).apply (numeralValue (unsigned (trim text.toList))) := by
  constructor
  · rintro ⟨before, sign, cs, after, htext, hbefore, hafter, hcs, rfl⟩
    have htrim : trim text.toList = sign.text ++ cs := by
      rw [htext, Text.trim_append hbefore hafter, trim_text_append sign hcs]
    obtain ⟨hof, hunsigned⟩ := of_text_append sign hcs.startsWithDigit
    rw [htrim, hof, hunsigned]
    exact ⟨hcs, rfl⟩
  · rintro ⟨hcs, rfl⟩
    obtain ⟨before, after, htext, hbefore, hafter⟩ := Text.exists_eq_append_trim text.toList
    refine ⟨before, Sign.of (trim text.toList), unsigned (trim text.toList), after, ?_, hbefore,
      hafter, hcs, rfl⟩
    rw [text_append_unsigned]
    exact htext

/-! ## limits -/

theorem greatest_eq : greatest = 2 ^ 63 - 1 := by decide

theorem leastSize_eq : leastSize = 2 ^ 63 := by decide

/-- Behind either sign the limit is that of 64 bits. -/
theorem Sign.le_limit_iff (sign : Sign) (n : Nat) :
    n ≤ sign.limit ↔ -2 ^ 63 ≤ sign.apply n ∧ sign.apply n ≤ 2 ^ 63 - 1 := by
  cases sign with
  | none | plus => rw [Sign.limit, Sign.apply, greatest_eq]; omega
  | minus => rw [Sign.limit, Sign.apply, leastSize_eq]; omega

theorem Sign.apply_limit_of_lt (sign : Sign) {n : Nat} (h : 2 ^ 63 - 1 < sign.apply n) :
    sign.apply sign.limit = 2 ^ 63 - 1 := by
  cases sign with
  | none | plus => rw [Sign.limit, greatest_eq]; rfl
  | minus => rw [Sign.apply] at h; omega

theorem Sign.apply_limit_of_gt (sign : Sign) {n : Nat} (h : sign.apply n < -2 ^ 63) :
    sign.apply sign.limit = -2 ^ 63 := by
  cases sign with
  | none | plus => rw [Sign.apply] at h; omega
  | minus => rw [Sign.limit, leastSize_eq]; rfl

/-! ## reading literals -/

/-- A text with an underscore where none may stand is malformed. -/
theorem separated_of_parse_ne {text : String}
    (h : parse text ≠ .error (.malformedIndex text)) : Separated false (trim text.toList) := by
  rw [parse] at h
  split at h
  · contradiction
  · next hdrop => exact separated_of_dropSeparators hdrop

/-- What is read as an integer is a literal of it. -/
theorem literal_of_parse_eq_ok {text : String} {n : Int} (h : parse text = .ok n) :
    Literal text n := by
  have hseparated : Separated false (trim text.toList) :=
    separated_of_parse_ne (by rw [h]; nofun)
  rw [parse_of_separated hseparated, readSigned_eq_ok_iff] at h
  obtain ⟨hne, hdigits, -, hvalue⟩ := h
  refine (literal_iff text n).mpr ⟨(numeral_iff _).mpr ⟨?_, ?_, hdigits⟩, hvalue⟩
  · exact (separated_unsigned _).mpr hseparated
  · intro hnil
    rw [hnil] at hne
    exact hne rfl

/-- **Literals are read as their integer**: within 64 bits as the integer
itself, beyond them as an index out of range; and what is read as an integer
is a literal of it. -/
theorem parse_literal (text : String) :
    (∀ n, Literal text n →
      (-2 ^ 63 ≤ n ∧ n ≤ 2 ^ 63 - 1 → parse text = .ok n) ∧
      (2 ^ 63 - 1 < n → parse text = .error (.invalidIndex (2 ^ 63 - 1))) ∧
      (n < -2 ^ 63 → parse text = .error (.invalidIndex (-2 ^ 63)))) ∧
    ∀ n, parse text = .ok n → Literal text n := by
  constructor
  · intro n h
    obtain ⟨hnumeral, rfl⟩ := (literal_iff text n).mp h
    have hseparated := (separated_unsigned _).mp (hnumeral.separated false)
    rw [parse_of_separated hseparated]
    generalize Sign.of (trim text.toList) = sign, unsigned (trim text.toList) = cs at hnumeral ⊢
    have hlarge : ¬ numeralValue cs ≤ sign.limit →
        readSigned text sign (plain cs) = .error (.invalidIndex (sign.apply sign.limit)) := by
      intro hlimit
      rw [readSigned_eq_invalidIndex_iff]
      exact ⟨⟨_, [], (List.append_nil _).symm, hnumeral.isDigit_of_mem_plain,
        Nat.lt_of_not_le hlimit⟩, rfl⟩
    rw [sign.le_limit_iff] at hlarge
    refine ⟨?_, ?_, ?_⟩
    · intro hrange
      rw [readSigned_eq_ok_iff]
      exact ⟨hnumeral.plain_ne_nil, hnumeral.isDigit_of_mem_plain,
        (sign.le_limit_iff _).mpr hrange, rfl⟩
    · intro hgreat
      rw [hlarge (by omega), sign.apply_limit_of_lt hgreat]
    · intro hsmall
      rw [hlarge (by omega), sign.apply_limit_of_gt hsmall]
  · intro n h
    exact literal_of_parse_eq_ok h

/-- The two limits, each written in a way of its own, and the integers just
beyond them. -/
theorem parse_literal_limits :
    parse " +9_223_372_036_854_775_807 " = .ok 9223372036854775807 ∧
      parse "-09223372036854775808" = .ok (-9223372036854775808) ∧
      parse "9223372036854775808" = .error (.invalidIndex 9223372036854775807) ∧
      parse "-9_223372036854775809\n" = .error (.invalidIndex (-9223372036854775808)) := by
  have hgreatest : Literal " +9_223_372_036_854_775_807 " 9223372036854775807 :=
    (literal_iff _ _).mpr (by decide)
  have hleast : Literal "-09223372036854775808" (-9223372036854775808) :=
    (literal_iff _ _).mpr (by decide)
  have habove : Literal "9223372036854775808" 9223372036854775808 :=
    (literal_iff _ _).mpr (by decide)
  have hbelow : Literal "-9_223372036854775809\n" (-9223372036854775809) :=
    (literal_iff _ _).mpr (by decide)
  exact ⟨((parse_literal _).1 _ hgreatest).1 (by decide), ((parse_literal _).1 _ hleast).1 (by decide),
    ((parse_literal _).1 _ habove).2.1 (by decide), ((parse_literal _).1 _ hbelow).2.2 (by decide)⟩

/-! ## reading other texts -/

/-- The digits at the front of a text, behind its sign, exceed the limit
already, and no underscore stands where it may not. -/
def Overruns (text : String) : Prop :=
  Separated false (trim text.toList) ∧
    ∃ digits rest, plain (unsigned (trim text.toList)) = digits ++ rest ∧
      (∀ c ∈ digits, isDigit c = true) ∧
      (Sign.of (trim text.toList)).limit < Decimal.value digits

/-- A text is out of range exactly when its digits exceed the limit, even if it
goes on with something that is no digit. -/
theorem exists_parse_eq_invalidIndex_iff (text : String) :
    (∃ i, parse text = .error (.invalidIndex i)) ↔ Overruns text := by
  constructor
  · rintro ⟨i, h⟩
    have hseparated : Separated false (trim text.toList) :=
      separated_of_parse_ne (by rw [h]; simp)
    rw [parse_of_separated hseparated, readSigned_eq_invalidIndex_iff] at h
    exact ⟨hseparated, h.1⟩
  · rintro ⟨hseparated, hlarge⟩
    let sign := Sign.of (trim text.toList)
    refine ⟨sign.apply sign.limit, ?_⟩
    rw [parse_of_separated hseparated, readSigned_eq_invalidIndex_iff]
    exact ⟨hlarge, rfl⟩

/-- A text is read as an integer, is out of range, or is malformed. -/
theorem parse_cases (text : String) :
    (∃ n, parse text = .ok n) ∨ (∃ i, parse text = .error (.invalidIndex i)) ∨
      parse text = .error (.malformedIndex text) := by
  by_cases h : parse text = .error (.malformedIndex text)
  · exact .inr (.inr h)
  · rw [parse_of_separated (separated_of_parse_ne h)]
    exact readSigned_cases _ _ _

/-- A command that previews what does not read as an index says why. -/
theorem stdout_preview_of_parse {text : String} {e : Error} (h : parse text = .error e)
    (fs : FileSystem) (v : Variables) (s : Settings) (filter : Log.Filter) (json : Bool) :
    (Run.command fs s filter json (.preview text)).stdout v =
      if e.isUserFacing then e.message ++ "\n" else "" := by
  have hanswer : Command.answer fs s json (.preview text) = .error e := by
    rw [Command.answer, Command.loadPreview, h]
    rfl
  rw [Run.command, hanswer]
  rfl

/-- **Other texts are malformed**, with the text as it was typed, exactly
unless their digits exceed the limit before anything else is looked at; then
they pass for an index out of range. -/
theorem parse_of_not_literal (text : String) (h : ∀ n, ¬ Literal text n) :
    (parse text = .error (.malformedIndex text) ↔ ¬ Overruns text) ∧
    ∀ fs v s filter json,
      ((Run.command fs s filter json (.preview text)).stdout v =
        "Please provide a valid component index!\n" ↔ ¬ Overruns text) ∧
      ((Run.command fs s filter json (.preview text)).stdout v =
        "Invalid component index!\n" ↔ Overruns text) := by
  have hdiffer : "Invalid component index!\n" ≠ "Please provide a valid component index!\n" := by
    decide
  by_cases hover : Overruns text
  · obtain ⟨i, hparse⟩ := (exists_parse_eq_invalidIndex_iff text).mpr hover
    refine ⟨?_, ?_⟩
    · rw [hparse]
      simp [hover]
    · intro fs v s filter json
      rw [stdout_preview_of_parse hparse]
      exact ⟨iff_of_false hdiffer (not_not_intro hover), iff_of_true rfl hover⟩
  · have hparse : parse text = .error (.malformedIndex text) := by
      obtain ⟨n, hok⟩ | hlarge | hparse := parse_cases text
      · exact absurd (literal_of_parse_eq_ok hok) (h n)
      · exact absurd ((exists_parse_eq_invalidIndex_iff text).mp hlarge) hover
      · exact hparse
    refine ⟨iff_of_true hparse hover, ?_⟩
    intro fs v s filter json
    rw [stdout_preview_of_parse hparse]
    exact ⟨iff_of_true rfl hover, iff_of_false hdiffer.symm hover⟩

/-- Underscores in a row make a text malformed, however it goes on. -/
theorem parse_of_not_literal_underscores :
    (∀ n, ¬ Literal " 99999999999999999999__9 " n) ∧
      parse " 99999999999999999999__9 " = .error (.malformedIndex " 99999999999999999999__9 ") := by
  have h : ∀ n, ¬ Literal " 99999999999999999999__9 " n := by
    intro n h
    exact absurd ((literal_iff _ n).mp h).1 (by decide)
  refine ⟨h, (parse_of_not_literal _ h).1.mpr ?_⟩
  rintro ⟨hseparated, -⟩
  exact absurd hseparated (by decide)

/-- A run of digits that exceeds the limit passes for an index out of range
although a letter follows. -/
theorem overrun_passes_for_index :
    (∀ n, ¬ Literal "99999999999999999999x" n) ∧
      parse "99999999999999999999x" = .error (.invalidIndex 9223372036854775807) := by
  refine ⟨?_, rfl⟩
  intro n h
  exact absurd ((literal_iff _ n).mp h).1 (by decide)

end ComponentBrowser.Component.Index
