import ComponentBrowser.Proofs.Json.Grammar
import Mathlib.Data.List.DropRight

/-!
# ComponentBrowser.Proofs.Json.Reading

Every JSON document is read as the value that it is a document of.  Each piece
is read from the front of whatever follows it, so the laws are stated with a
rest; a number needs a rest that it does not go on into (`Ends`).

* `readString_stringText`, `readNumber_numberText` — strings and numbers;
* `readValue_valueText` — values, if there is fuel for their length;
* `parse?_of_document`, `Document.unique` — documents, each of one value.
-/

namespace ComponentBrowser.Json

/-! ## blanks -/

theorem skipBlanks_append {b : List Char} (hb : Blanks b) (rest : List Char) :
    skipBlanks (b ++ rest) = skipBlanks rest := by
  refine List.dropWhile_append_of_pos fun c hc => ?_
  rcases hb c hc with rfl | rfl | rfl | rfl <;> rfl

theorem skipBlanks_skipBlanks (cs : List Char) : skipBlanks (skipBlanks cs) = skipBlanks cs :=
  List.dropWhile_idempotent _ cs

theorem Opens.ne_blank {c : Char} (h : Opens c) :
    c ≠ ' ' ∧ c ≠ '\t' ∧ c ≠ '\n' ∧ c ≠ '\r' := by
  refine ⟨?_, ?_, ?_, ?_⟩ <;> · rintro rfl; exact absurd h (by unfold Opens; decide)

theorem skipBlanks_cons_of_opens {c : Char} (h : Opens c) (rest : List Char) :
    skipBlanks (c :: rest) = c :: rest := by
  obtain ⟨hspace, htab, hline, hreturn⟩ := h.ne_blank
  exact List.dropWhile_cons_of_neg (by simp [hspace, htab, hline, hreturn])

/-! ## strings -/

theorem hex4?_append {n : Nat} {ds : List Char} (h : FourDigits n ds) (rest : List Char) :
    hex4? (ds ++ rest) = some (n, rest) := by
  obtain ⟨ha, hb, hc, hd⟩ := h
  simp [hex4?, ha, hb, hc, hd]

/-- A letter is read as the character that it stands for. -/
theorem readString_letter (fuel : Nat) (done rest : List Char) :
    ∀ p ∈ letters, readString (fuel + 1) done ('\\' :: p.1 :: rest) =
      readString fuel (p.2 :: done) rest := by
  simp only [letters, List.forall_mem_cons]
  exact ⟨rfl, rfl, rfl, rfl, rfl, rfl, rfl, rfl, nofun⟩

theorem codePoint?_number {c : Char} {ds : List Char} (h : FourDigits c.toNat ds)
    (rest : List Char) : codePoint? (ds ++ rest) = some (c, rest) := by
  have hscalar : c.toNat < 0xD800 ∨ 0xE000 ≤ c.toNat := by
    rcases c.valid with hlow | ⟨hhigh, -⟩
    · exact .inl hlow
    · exact .inr hhigh
  rw [codePoint?, hex4?_append h]
  simp only [hscalar, if_true, Char.ofNat_toNat]

theorem codePoint?_pair {c : Char} {high low : Nat} {ds es : List Char} (hhigh : high < 0x400)
    (hlow : low < 0x400) (hc : c.toNat = 0x10000 + high * 0x400 + low)
    (hds : FourDigits (0xD800 + high) ds) (hes : FourDigits (0xDC00 + low) es)
    (rest : List Char) :
    codePoint? (ds ++ '\\' :: 'u' :: (es ++ rest)) = some (c, rest) := by
  have hnumber : 0x10000 + (0xD800 + high - 0xD800) * 0x400 + (0xDC00 + low - 0xDC00) =
      c.toNat := by omega
  rw [codePoint?, hex4?_append hds]
  simp only
  rw [if_neg (by omega), if_neg (by omega)]
  simp only [hex4?_append hes]
  rw [if_pos (by omega), hnumber, Char.ofNat_toNat]

/-- One character is read from however it is written. -/
theorem readString_charText {c : Char} {text : List Char} (h : CharText c text) (fuel : Nat)
    (done rest : List Char) :
    readString (fuel + 1) done (text ++ rest) = readString fuel (c :: done) rest := by
  cases h with
  | plain hquote hbackslash hcontrol =>
      simp [readString, hquote, hbackslash, Nat.not_lt.mpr hcontrol]
  | letter h => exact readString_letter fuel done rest _ h
  | number h => simp [readString, codePoint?_number h]
  | pair hhigh hlow hc hds hes =>
      simp [readString, codePoint?_pair hhigh hlow hc hds hes]

/-- A string is read up to its closing quote. -/
theorem readString_stringText {cs body : List Char} (h : StringText cs body) (rest : List Char) :
    ∀ {fuel : Nat} (done : List Char), cs.length < fuel →
      readString fuel done (body ++ '"' :: rest) =
        some (String.ofList (done.reverse ++ cs), rest) := by
  induction h with
  | nil =>
      intro fuel done hfuel
      obtain ⟨fuel, rfl⟩ := Nat.exists_eq_succ_of_ne_zero (Nat.ne_of_gt hfuel)
      simp [readString]
  | cons hc _ ih =>
      intro fuel done hfuel
      obtain ⟨fuel, rfl⟩ := Nat.exists_eq_succ_of_ne_zero (Nat.ne_of_gt (Nat.zero_lt_of_lt hfuel))
      rw [List.append_assoc, readString_charText hc, ih _ (Nat.lt_of_succ_lt_succ hfuel)]
      simp

theorem CharText.ne_nil {c : Char} {text : List Char} (h : CharText c text) : text ≠ [] := by
  cases h <;> exact List.cons_ne_nil _ _

theorem StringText.length_le {cs body : List Char} (h : StringText cs body) :
    cs.length ≤ body.length := by
  induction h with
  | nil => exact Nat.le_refl _
  | cons hc _ ih =>
      have hpos := List.length_pos_iff.mpr hc.ne_nil
      rw [List.length_cons, List.length_append]
      omega

/-- The fuel that documents are read with is enough for each of their strings. -/
theorem readString_of_stringText {s : String} {body : List Char} (h : StringText s.toList body)
    (rest : List Char) :
    readString ((body ++ '"' :: rest).length + 1) [] (body ++ '"' :: rest) = some (s, rest) := by
  have hle := h.length_le
  rw [readString_stringText h rest [] (by rw [List.length_append]; omega)]
  simp

/-! ## numbers -/

/-- A rest in which no number goes on. -/
def Ends (rest : List Char) : Prop :=
  ∀ c ∈ rest.head?, Decimal.isDigit c = false ∧ c ≠ '.' ∧ c ≠ 'e' ∧ c ≠ 'E'

theorem Ends.of_blanks {b : List Char} (hb : Blanks b) {rest : List Char} (hrest : Ends rest) :
    Ends (b ++ rest) := by
  cases b with
  | nil => exact hrest
  | cons c b =>
      rintro d ⟨⟩
      rcases hb c List.mem_cons_self with rfl | rfl | rfl | rfl <;> decide

theorem spanDigits_append {ds rest : List Char} (hds : ∀ c ∈ ds, Decimal.isDigit c = true)
    (hrest : ∀ c ∈ rest.head?, Decimal.isDigit c = false) :
    spanDigits (ds ++ rest) = (ds, rest) := by
  have hstop : rest.takeWhile Decimal.isDigit = [] ∧ rest.dropWhile Decimal.isDigit = rest := by
    cases rest with
    | nil => exact ⟨rfl, rfl⟩
    | cons c rest => simp [hrest c rfl]
  rw [spanDigits, List.takeWhile_append_of_pos hds, List.dropWhile_append_of_pos hds, hstop.1,
    hstop.2, List.append_nil]

theorem readFraction_append {fraction? : Option (List Char)} {text rest : List Char}
    (h : FractionText fraction? text)
    (hrest : ∀ c ∈ rest.head?, Decimal.isDigit c = false ∧ c ≠ '.') :
    readFraction (text ++ rest) = some (fraction?, rest) := by
  cases h with
  | none =>
      rw [List.nil_append]
      unfold readFraction
      split
      · exact absurd rfl (hrest '.' rfl).2
      · rfl
  | some h =>
      rw [List.cons_append, readFraction, spanDigits_append h.2 fun c hc => (hrest c hc).1]
      simp [h.1]

theorem isDigit_ne {c d : Char} (hc : Decimal.isDigit c = true) (hd : Decimal.isDigit d = false) :
    c ≠ d := by
  rintro rfl
  rw [hc] at hd
  contradiction

theorem readExponent_append {exponent? : Option Int} {text rest : List Char}
    (h : ExponentText exponent? text) (hrest : Ends rest) :
    readExponent (text ++ rest) = some (exponent?, rest) := by
  have hstop : ∀ c ∈ rest.head?, Decimal.isDigit c = false := fun c hc => (hrest c hc).1
  cases h with
  | none =>
      cases rest with
      | nil => rfl
      | cons c rest =>
          obtain ⟨-, -, he, hE⟩ := hrest c rfl
          simp [readExponent, he, hE]
  | unsigned he h =>
      obtain ⟨d, ds, rfl⟩ := List.exists_cons_of_ne_nil h.1
      have hd := h.2 d List.mem_cons_self
      have hminus : d ≠ '-' := isDigit_ne hd rfl
      have hplus : d ≠ '+' := isDigit_ne hd rfl
      have hspan := spanDigits_append h.2 hstop
      rw [List.cons_append] at hspan
      simp [readExponent, he, hminus, hplus, hspan]
  | plus he h => simp [readExponent, he, spanDigits_append h.2 hstop, h.1]
  | minus he h => simp [readExponent, he, spanDigits_append h.2 hstop, h.1]

theorem FractionText.head?_append {fraction? : Option (List Char)} {text rest : List Char}
    (h : FractionText fraction? text)
    (hrest : ∀ c ∈ rest.head?, Decimal.isDigit c = false) :
    ∀ c ∈ (text ++ rest).head?, Decimal.isDigit c = false := by
  cases h with
  | none => exact hrest
  | some _ => rintro c ⟨⟩; rfl

theorem ExponentText.head?_append {exponent? : Option Int} {text rest : List Char}
    (h : ExponentText exponent? text) (hrest : Ends rest) :
    ∀ c ∈ (text ++ rest).head?, Decimal.isDigit c = false ∧ c ≠ '.' := by
  cases h with
  | none => exact fun c hc => ⟨(hrest c hc).1, (hrest c hc).2.1⟩
  | unsigned he _ | plus he _ | minus he _ =>
      rintro c ⟨⟩
      rcases he with rfl | rfl <;> decide

theorem WholeDigits.plain {ds : List Char} (h : WholeDigits ds) :
    ¬ (ds = [] ∨ (ds.head? = some '0' ∧ 1 < ds.length)) := by
  obtain ⟨⟨hne, -⟩, hzero⟩ := h
  rintro (hnil | ⟨hhead, hlong⟩)
  · exact hne hnil
  · rw [hzero hhead] at hlong
    exact absurd hlong (by decide)

/-- A number is read up to where it ends. -/
theorem readNumber_numberText {n : Number} {cs rest : List Char} (h : NumberText n cs)
    (hrest : Ends rest) : readNumber (cs ++ rest) = some (n, rest) := by
  obtain @⟨whole, fraction, exponent, fraction?, exponent?, negative, hwhole, hfraction,
    hexponent⟩ := h
  have hbehind := hexponent.head?_append hrest
  have hspan := spanDigits_append hwhole.1.2
    (hfraction.head?_append fun c hc => (hbehind c hc).1)
  have hdigit : (whole ++ (fraction ++ (exponent ++ rest))).head? ≠ some '-' := by
    obtain ⟨d, ds, rfl⟩ := List.exists_cons_of_ne_nil hwhole.1.1
    exact fun h => isDigit_ne (hwhole.1.2 d List.mem_cons_self) rfl (Option.some.inj h)
  simp only [List.append_assoc]
  -- From here on it counts only that no sign stands before the digits, and where they end.
  generalize whole ++ (fraction ++ (exponent ++ rest)) = unsigned at hspan hdigit ⊢
  cases negative <;>
    simp [readNumber, hdigit, hspan, hwhole.plain, readFraction_append hfraction hbehind,
      readExponent_append hexponent hrest]

/-! ## values -/

/-- Values are looked for behind blanks. -/
theorem readValue_congr {cs ds : List Char} (h : skipBlanks cs = skipBlanks ds) (fuel : Nat) :
    readValue fuel cs = readValue fuel ds := by
  cases fuel with
  | zero => rfl
  | succ fuel => rw [readValue, readValue, h]

theorem readItems_congr {cs ds : List Char} (h : skipBlanks cs = skipBlanks ds) (fuel : Nat) :
    readItems fuel cs = readItems fuel ds := by
  cases fuel with
  | zero => rfl
  | succ fuel => rw [readItems, readItems, readValue_congr h]

theorem readMembers_congr {cs ds : List Char} (h : skipBlanks cs = skipBlanks ds) (fuel : Nat) :
    readMembers fuel cs = readMembers fuel ds := by
  cases fuel with
  | zero => rfl
  | succ fuel => rw [readMembers, readMembers, readName, readName, h]

theorem readValue_number (fuel : Nat) {c : Char} {rest : List Char}
    (h : c = '-' ∨ Decimal.isDigit c = true) :
    readValue (fuel + 1) (c :: rest) =
      (readNumber (c :: rest)).map fun (n, rest) => (.number n, rest) := by
  have hopens : Opens c := h.imp (fun h => by rw [h]; decide) id
  have hother : c ≠ 'n' ∧ c ≠ 't' ∧ c ≠ 'f' ∧ c ≠ '"' ∧ c ≠ '[' ∧ c ≠ '\x7b' := by
    refine ⟨?_, ?_, ?_, ?_, ?_, ?_⟩ <;> · rintro rfl; exact absurd h (by decide)
  obtain ⟨hn, ht, hf, hquote, hbracket, hbrace⟩ := hother
  simp [readValue, skipBlanks_cons_of_opens hopens, hn, ht, hf, hquote, hbracket, hbrace]

theorem readValue_array (fuel : Nat) {c : Char} {cs rest : List Char}
    (h : skipBlanks cs = c :: rest) (hc : Opens c) :
    readValue (fuel + 1) ('[' :: cs) =
      (readItems fuel cs).map fun (items, rest) => (.array items, rest) := by
  have hne : c ≠ ']' := by
    rintro rfl
    exact absurd hc (by unfold Opens; decide)
  have hskip : skipBlanks (c :: rest) = skipBlanks cs := by rw [← h, skipBlanks_skipBlanks]
  rw [readValue, ← readItems_congr hskip]
  simp [skipBlanks_cons_of_opens (.inl (by decide : '[' ∈ _)), h, hne]

theorem readValue_object (fuel : Nat) {cs rest : List Char} (h : skipBlanks cs = '"' :: rest) :
    readValue (fuel + 1) ('\x7b' :: cs) =
      (readMembers fuel cs).map fun (members, rest) => (.object members, rest) := by
  have hskip : skipBlanks ('"' :: rest) = skipBlanks cs := by rw [← h, skipBlanks_skipBlanks]
  rw [readValue, ← readMembers_congr hskip]
  simp [skipBlanks_cons_of_opens (.inl (by decide : '\x7b' ∈ _)), h]

theorem readName_nameText {name : String} {cs : List Char} (h : NameText name cs)
    (rest : List Char) : readName (cs ++ rest) = some (name, rest) := by
  obtain ⟨hb, hname, ha⟩ := h
  rename_i b body a
  have hcolon : skipBlanks (a ++ ':' :: rest) = ':' :: rest := skipBlanks_append ha _
  have hquote : skipBlanks (b ++ '"' :: (body ++ '"' :: (a ++ ':' :: rest))) =
      '"' :: (body ++ '"' :: (a ++ ':' :: rest)) := skipBlanks_append hb _
  simp only [List.append_assoc, List.cons_append, List.nil_append]
  rw [readName, hquote]
  simp only [readString_of_stringText hname, hcolon]

theorem ItemText.exists_cons {v : Json} {cs : List Char} (h : ItemText v cs) (rest : List Char) :
    ∃ c t, skipBlanks (cs ++ rest) = c :: t ∧ Opens c := by
  obtain ⟨hb, h, -⟩ := h
  obtain ⟨c, t, rfl, hc⟩ := h.exists_cons
  simp only [List.append_assoc, List.cons_append]
  exact ⟨c, _, (skipBlanks_append hb _).trans (skipBlanks_cons_of_opens hc _), hc⟩

theorem ItemsText.exists_cons {vs : List Json} {cs : List Char} (h : ItemsText vs cs)
    (rest : List Char) : ∃ c t, skipBlanks (cs ++ rest) = c :: t ∧ Opens c := by
  cases h with
  | last h => exact h.exists_cons rest
  | cons h _ =>
      rw [List.append_assoc]
      exact h.exists_cons _

theorem NameText.exists_cons {name : String} {cs : List Char} (h : NameText name cs)
    (rest : List Char) : ∃ t, skipBlanks (cs ++ rest) = '"' :: t := by
  obtain ⟨hb, -, -⟩ := h
  simp only [List.append_assoc]
  exact ⟨_, (skipBlanks_append hb _).trans rfl⟩

theorem MembersText.exists_cons {ms : List (String × Json)} {cs : List Char}
    (h : MembersText ms cs) (rest : List Char) : ∃ t, skipBlanks (cs ++ rest) = '"' :: t := by
  cases h with
  | last hname _ | cons hname _ _ =>
      simp only [List.append_assoc]
      exact hname.exists_cons _

/-! ### what stands behind a value -/

/-- The signs that stand behind a value. -/
def Closes (c : Char) : Prop := c = ',' ∨ c = ']' ∨ c = '\x7d'

theorem Closes.ends {c : Char} (h : Closes c) (rest : List Char) : Ends (c :: rest) := by
  rintro d ⟨⟩
  rcases h with rfl | rfl | rfl <;> decide

theorem Closes.skipBlanks {c : Char} (h : Closes c) (rest : List Char) :
    Json.skipBlanks (c :: rest) = c :: rest := by
  rcases h with rfl | rfl | rfl <;> rfl

theorem readItems_last {fuel : Nat} {v : Json} {cs left rest : List Char}
    (hread : readValue fuel cs = some (v, left)) (hleft : skipBlanks left = ']' :: rest) :
    readItems (fuel + 1) cs = some ([v], rest) := by
  rw [readItems, hread]
  simp only [hleft]

theorem readItems_cons {fuel : Nat} {v : Json} {cs left rest : List Char}
    (hread : readValue fuel cs = some (v, left)) (hleft : skipBlanks left = ',' :: rest) :
    readItems (fuel + 1) cs =
      (readItems fuel rest).map fun (items, rest) => (v :: items, rest) := by
  rw [readItems, hread]
  simp only [hleft]

theorem readMembers_last {fuel : Nat} {name : String} {v : Json} {cs ds left rest : List Char}
    (hname : readName cs = some (name, ds)) (hread : readValue fuel ds = some (v, left))
    (hleft : skipBlanks left = '\x7d' :: rest) :
    readMembers (fuel + 1) cs = some ([(name, v)], rest) := by
  rw [readMembers, hname]
  simp only [hread, hleft]

theorem readMembers_cons {fuel : Nat} {name : String} {v : Json} {cs ds left rest : List Char}
    (hname : readName cs = some (name, ds)) (hread : readValue fuel ds = some (v, left))
    (hleft : skipBlanks left = ',' :: rest) :
    readMembers (fuel + 1) cs =
      (readMembers fuel rest).map fun (members, rest) => ((name, v) :: members, rest) := by
  rw [readMembers, hname]
  simp only [hread, hleft]

theorem readValue_string (fuel : Nat) {s : String} {body : List Char}
    (h : StringText s.toList body) (rest : List Char) :
    readValue (fuel + 1) ('"' :: (body ++ '"' :: rest)) = some (.string s, rest) := by
  simp only [readValue, skipBlanks_cons_of_opens (.inl (by decide : '"' ∈ _)),
    readString_of_stringText h, Option.map_some]

theorem readValue_emptyArray (fuel : Nat) {b : List Char} (hb : Blanks b) (rest : List Char) :
    readValue (fuel + 1) ('[' :: (b ++ ']' :: rest)) = some (.array [], rest) := by
  have hclose : skipBlanks (b ++ ']' :: rest) = ']' :: rest := skipBlanks_append hb _
  simp only [readValue, skipBlanks_cons_of_opens (.inl (by decide : '[' ∈ _)), hclose]

theorem readValue_emptyObject (fuel : Nat) {b : List Char} (hb : Blanks b) (rest : List Char) :
    readValue (fuel + 1) ('\x7b' :: (b ++ '\x7d' :: rest)) = some (.object [], rest) := by
  have hclose : skipBlanks (b ++ '\x7d' :: rest) = '\x7d' :: rest := skipBlanks_append hb _
  simp only [readValue, skipBlanks_cons_of_opens (.inl (by decide : '\x7b' ∈ _)), hclose]

/-! ### the induction -/

theorem enclosed (first last : Char) (cs rest : List Char) :
    first :: cs ++ [last] ++ rest = first :: (cs ++ last :: rest) := by
  rw [List.cons_append, List.cons_append, List.append_assoc, List.singleton_append]

mutual

/-- A value is read from the front of a text, up to where it ends.  The fuel is
counted against the length, as each value within begins at least one character
further back. -/
theorem readValue_valueText : ∀ {v : Json} {cs : List Char}, ValueText v cs →
    ∀ {fuel : Nat} {rest : List Char}, cs.length ≤ fuel → Ends rest →
      readValue fuel (cs ++ rest) = some (v, rest)
  | _, _, h, 0, _, hfuel, _ => by
      -- No value is empty, so there is always fuel for one.
      obtain ⟨c, t, rfl, -⟩ := h.exists_cons
      exact absurd hfuel (Nat.not_succ_le_zero _)
  | _, _, .null, _ + 1, _, _, _ => rfl
  | _, _, .true, _ + 1, _, _, _ => rfl
  | _, _, .false, _ + 1, _, _, _ => rfl
  | _, _, .number h, fuel + 1, rest, _, hrest => by
      have hread := readNumber_numberText h hrest
      obtain ⟨c, t, rfl, hc⟩ := h.exists_cons
      rw [List.cons_append] at hread ⊢
      rw [readValue_number fuel hc, hread]
      rfl
  | _, _, .string h, fuel + 1, rest, _, _ => by
      rw [enclosed]
      exact readValue_string fuel h rest
  | _, _, .emptyArray hb, fuel + 1, rest, _, _ => by
      rw [enclosed]
      exact readValue_emptyArray fuel hb rest
  | _, _, .array h, fuel + 1, rest, hfuel, _ => by
      rw [List.length_append, List.length_cons, List.length_singleton] at hfuel
      obtain ⟨c, t, hskip, hc⟩ := h.exists_cons (']' :: rest)
      rw [enclosed, readValue_array fuel hskip hc, readItems_itemsText h fuel rest (by omega)]
      rfl
  | _, _, .emptyObject hb, fuel + 1, rest, _, _ => by
      rw [enclosed]
      exact readValue_emptyObject fuel hb rest
  | _, _, .object h, fuel + 1, rest, hfuel, _ => by
      rw [List.length_append, List.length_cons, List.length_singleton] at hfuel
      obtain ⟨t, hskip⟩ := h.exists_cons ('\x7d' :: rest)
      rw [enclosed, readValue_object fuel hskip, readMembers_membersText h fuel rest (by omega)]
      rfl

/-- A value with blanks around it is read, and only blanks are left of it. -/
theorem readValue_itemText : ∀ {v : Json} {cs : List Char}, ItemText v cs →
    ∀ (fuel : Nat) (rest : List Char), cs.length ≤ fuel → Ends rest →
      ∃ left, readValue fuel (cs ++ rest) = some (v, left) ∧ skipBlanks left = skipBlanks rest
  | _, _, .mk hb h ha, fuel, rest, hfuel, hrest => by
      simp only [List.length_append] at hfuel
      refine ⟨_, ?_, skipBlanks_append ha rest⟩
      rw [List.append_assoc, List.append_assoc, readValue_congr (skipBlanks_append hb _)]
      exact readValue_valueText h (by omega) (.of_blanks ha hrest)

theorem readItems_itemsText : ∀ {vs : List Json} {cs : List Char}, ItemsText vs cs →
    ∀ (fuel : Nat) (rest : List Char), cs.length < fuel →
      readItems fuel (cs ++ ']' :: rest) = some (vs, rest)
  | _, _, .last h, fuel + 1, rest, hfuel => by
      have hclose : Closes ']' := .inr (.inl rfl)
      obtain ⟨left, hread, hleft⟩ := readValue_itemText h fuel _ (by omega) (hclose.ends rest)
      exact readItems_last hread (hleft.trans (hclose.skipBlanks rest))
  | _, _, .cons h hs, fuel + 1, rest, hfuel => by
      have hclose : Closes ',' := .inl rfl
      rw [List.length_append, List.length_cons] at hfuel
      obtain ⟨left, hread, hleft⟩ := readValue_itemText h fuel _ (by omega) (hclose.ends _)
      rw [List.append_assoc, List.cons_append,
        readItems_cons hread (hleft.trans (hclose.skipBlanks _)),
        readItems_itemsText hs fuel rest (by omega)]
      rfl

theorem readMembers_membersText : ∀ {ms : List (String × Json)} {cs : List Char},
    MembersText ms cs → ∀ (fuel : Nat) (rest : List Char), cs.length < fuel →
      readMembers fuel (cs ++ '\x7d' :: rest) = some (ms, rest)
  | _, _, .last hname h, fuel + 1, rest, hfuel => by
      have hclose : Closes '\x7d' := .inr (.inr rfl)
      rw [List.length_append] at hfuel
      obtain ⟨left, hread, hleft⟩ := readValue_itemText h fuel _ (by omega) (hclose.ends rest)
      rw [List.append_assoc]
      exact readMembers_last (readName_nameText hname _) hread
        (hleft.trans (hclose.skipBlanks rest))
  | _, _, .cons hname h hs, fuel + 1, rest, hfuel => by
      have hclose : Closes ',' := .inl rfl
      simp only [List.length_append, List.length_cons] at hfuel
      obtain ⟨left, hread, hleft⟩ := readValue_itemText h fuel _ (by omega) (hclose.ends _)
      simp only [List.append_assoc, List.cons_append]
      rw [readMembers_cons (readName_nameText hname _) hread
          (hleft.trans (hclose.skipBlanks _)),
        readMembers_membersText hs fuel rest (by omega)]
      rfl

end

/-! ## documents -/

/-- **Every document is read**, as the value that it is a document of. -/
theorem parse?_of_document {v : Json} {text : String} (h : Document v text) :
    parse? text = some v := by
  obtain ⟨left, hread, hleft⟩ := readValue_itemText h (text.toList.length + 1) []
    (Nat.le_succ _) (fun _ hc => nomatch hc)
  rw [List.append_nil] at hread
  rw [parse?, hread]
  simp only [hleft]
  rfl

/-- A document stands for one value. -/
theorem Document.unique {v w : Json} {text : String} (hv : Document v text)
    (hw : Document w text) : v = w :=
  Option.some.inj ((parse?_of_document hv).symm.trans (parse?_of_document hw))

end ComponentBrowser.Json
