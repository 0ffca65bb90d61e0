import ComponentBrowser.Json.Printer
import ComponentBrowser.Proofs.Json.Reading
import ComponentBrowser.Proofs.Text.Grouped
import ComponentBrowser.Proofs.Text.Quoted
import Mathlib.Algebra.Ring.Int.Defs
import Mathlib.Algebra.Ring.Nat

/-!
# ComponentBrowser.Proofs.Json.Printing

What is printed is a document of the printed value, and is read back as it.
This holds of every value whose integers fit 64 bits (`Fits`); no document
stands for any other value, as a longer number is a decimal.

* `stringText_escape`, `numberText_integer`, `numberText_decimal` — strings and
  numbers are written by the grammar;
* `valueText_prettyText` — so are values, at any level of indentation;
* `document_pretty`, `parse?_pretty` — a printed value is a document, and reads
  back;
* `exists_document_iff` — exactly the values that fit have documents.
-/

namespace ComponentBrowser.Json

/-- The integers of a value fit 64 bits, signed or unsigned. -/
inductive Fits : Json → Prop where
  | null : Fits .null
  | bool (b : Bool) : Fits (.bool b)
  | integer {n : Int} (hlow : -2 ^ 63 ≤ n) (hhigh : n < 2 ^ 64) : Fits (.number (.integer n))
  | decimal (negative : Bool) (digits : Nat) (exponent : Int) :
      Fits (.number (.decimal negative digits exponent))
  | string (s : String) : Fits (.string s)
  | array {items : List Json} (h : ∀ v ∈ items, Fits v) : Fits (.array items)
  | object {members : List (String × Json)} (h : ∀ m ∈ members, Fits m.2) :
      Fits (.object members)

theorem fits_ofNat {n : Nat} (h : n < 2 ^ 64) : (ofNat n).Fits :=
  .integer (by omega) (by omega)

/-! ## strings -/

theorem value?_digitChar : ∀ n < 16, Hexadecimal.value? (Nat.digitChar n) = some n := by
  decide

theorem fourDigits_control {n : Nat} (h : n < 0x20) :
    FourDigits n ['0', '0', Nat.digitChar (n / 16), Nat.digitChar (n % 16)] := by
  have hnumber : ((0 * 16 + 0) * 16 + n / 16) * 16 + n % 16 = n := by omega
  have hdigits : FourDigits (((0 * 16 + 0) * 16 + n / 16) * 16 + n % 16)
      ['0', '0', Nat.digitChar (n / 16), Nat.digitChar (n % 16)] :=
    .mk rfl rfl (value?_digitChar (n / 16) (by omega)) (value?_digitChar (n % 16) (by omega))
  rwa [hnumber] at hdigits

/-- Every character is escaped in a way that the grammar has. -/
theorem charText_escape (c : Char) : CharText c (escape c) := by
  unfold escape
  repeat' split
  iterate 7
    · next h => exact .letter (by rw [h]; decide)
  · next hcontrol => exact .number (fourDigits_control hcontrol)
  · next hquote hbackslash _ _ _ _ _ hcontrol =>
      exact .plain hquote hbackslash (Nat.not_lt.mp hcontrol)

theorem stringText_escape (cs : List Char) : StringText cs (cs.flatMap escape) := by
  induction cs with
  | nil => exact .nil
  | cons c cs ih =>
      rw [List.flatMap_cons]
      exact .cons (charText_escape c) ih

/-! ## numbers -/

theorem digits_digits (n : Nat) : Digits (Decimal.digits n) :=
  ⟨Decimal.digits_ne_nil n, Decimal.isDigit_of_mem_digits n⟩

theorem wholeDigits_digits (n : Nat) : WholeDigits (Decimal.digits n) := by
  refine ⟨digits_digits n, fun h => ?_⟩
  rw [(Decimal.head?_digits n).mp h, Decimal.digits]
  rfl

theorem toList_renderInt (n : Int) :
    (Decimal.renderInt n).toList =
      (if n < 0 then ['-'] else []) ++ Decimal.digits n.natAbs := by
  unfold Decimal.renderInt
  split <;> simp [Decimal.render]

theorem ofParts_integer {n : Int} (hlow : -2 ^ 63 ≤ n) (hhigh : n < 2 ^ 64) :
    Number.ofParts (n < 0) (Decimal.digits n.natAbs) none none = .integer n := by
  have hsize : UInt64.size = 2 ^ 64 := rfl
  simp only [Number.ofParts, Decimal.value_digits]
  by_cases hneg : n < 0
  · have hfits : 0 < n.natAbs ∧ n.natAbs ≤ UInt64.size / 2 := by omega
    have habs : -(n.natAbs : Int) = n := by omega
    rw [if_pos (decide_eq_true hneg), if_pos hfits, habs]
  · have hfits : n.natAbs < UInt64.size := by omega
    have habs : (n.natAbs : Int) = n := by omega
    rw [if_neg (by simp [hneg]), if_pos hfits, habs]

theorem numberText_integer {n : Int} (hlow : -2 ^ 63 ≤ n) (hhigh : n < 2 ^ 64) :
    NumberText (.integer n) (numberText (.integer n)) := by
  have htext := NumberText.mk (n < 0) (wholeDigits_digits n.natAbs) .none .none
  rw [ofParts_integer hlow hhigh] at htext
  simpa [numberText, toList_renderInt] using htext

theorem exponentText_renderInt (exponent : Int) :
    ExponentText (some exponent) ('e' :: (Decimal.renderInt exponent).toList) := by
  have hdigits := digits_digits exponent.natAbs
  have hvalue := Decimal.value_digits exponent.natAbs
  rw [toList_renderInt]
  by_cases hneg : exponent < 0
  · have habs : -(Decimal.value (Decimal.digits exponent.natAbs) : Int) = exponent := by omega
    have htext := ExponentText.minus (.inl rfl) hdigits
    rw [if_pos hneg, List.singleton_append]
    rwa [habs] at htext
  · have habs : (Decimal.value (Decimal.digits exponent.natAbs) : Int) = exponent := by omega
    have htext := ExponentText.unsigned (.inl rfl) hdigits
    rw [if_neg hneg]
    rwa [habs] at htext

theorem numberText_decimal (negative : Bool) (digits : Nat) (exponent : Int) :
    NumberText (.decimal negative digits exponent)
      (numberText (.decimal negative digits exponent)) := by
  have htext := NumberText.mk negative (wholeDigits_digits digits) .none
    (exponentText_renderInt exponent)
  have hparts : Number.ofParts negative (Decimal.digits digits) none (some exponent) =
      .decimal negative digits exponent := by
    simp [Number.ofParts]
  rw [hparts] at htext
  simpa [numberText] using htext

/-! ## values -/

theorem blanks_newline (depth : Nat) : Blanks (newline depth) := by
  intro c hc
  rcases List.mem_cons.mp hc with rfl | hc
  · exact .inr (.inr (.inl rfl))
  · exact .inl (List.eq_of_mem_replicate hc)

theorem blanks_space : Blanks [' '] := by
  rintro c (_ | ⟨_, ⟨⟩⟩)
  exact .inl rfl

theorem nameText_stringText (name : String) {b : List Char} (hb : Blanks b) :
    NameText name (b ++ stringText name ++ [':']) := by
  have htext := NameText.mk hb (stringText_escape name.toList) .nil
  rwa [List.append_assoc b] at htext

mutual

/-- A value is printed by the grammar, at every level of indentation. -/
theorem valueText_prettyText (depth : Nat) :
    ∀ {v : Json}, Fits v → ValueText v (prettyText depth v)
  | .null, _ => .null
  | .bool true, _ => .true
  | .bool false, _ => .false
  | .number (.integer _), .integer hlow hhigh => .number (numberText_integer hlow hhigh)
  | .number (.decimal negative digits exponent), _ =>
      .number (numberText_decimal negative digits exponent)
  | .string s, _ => .string (stringText_escape s.toList)
  | .array [], _ => .emptyArray .nil
  | .array (v :: items), .array h => by
      have hfirst := valueText_prettyText (depth + 1) (h v List.mem_cons_self)
      rw [prettyText]
      exact .array (itemsText_prettyItems (depth + 1) items
        (fun w hw => h w (List.mem_cons_of_mem v hw)) hfirst (blanks_newline depth))
  | .object [], _ => .emptyObject .nil
  | .object ((name, v) :: members), .object h => by
      have hfirst := valueText_prettyText (depth + 1) (h (name, v) List.mem_cons_self)
      rw [prettyText]
      exact .object (membersText_prettyMembers (depth + 1) members
        (fun m hm => h m (List.mem_cons_of_mem (name, v) hm)) name hfirst (blanks_newline depth))

/-- The items of an array, the first of them written before. -/
theorem itemsText_prettyItems (depth : Nat) : ∀ (items : List Json), (∀ v ∈ items, Fits v) →
    ∀ {v : Json} {cs a : List Char}, ValueText v cs → Blanks a →
      ItemsText (v :: items) (newline depth ++ cs ++ prettyItems depth items ++ a)
  | [], _, v, cs, a, h, ha => by
      -- The line break before the bracket belongs to the last item, as its `a`.
      rw [prettyItems, List.append_nil]
      exact .last (.mk (blanks_newline depth) h ha)
  | w :: items, hitems, v, cs, a, h, ha => by
      have hnext := valueText_prettyText depth (hitems w List.mem_cons_self)
      have hrest := itemsText_prettyItems depth items
        (fun v hv => hitems v (List.mem_cons_of_mem w hv)) hnext ha
      have hitem : ItemText v (newline depth ++ cs ++ []) := .mk (blanks_newline depth) h .nil
      have htext := ItemsText.cons hitem hrest
      rw [prettyItems]
      simpa using htext

/-- The members of an object, the value of the first of them written before. -/
theorem membersText_prettyMembers (depth : Nat) :
    ∀ (members : List (String × Json)), (∀ m ∈ members, Fits m.2) →
      ∀ (name : String) {v : Json} {a : List Char}, ValueText v (prettyText depth v) →
        Blanks a → MembersText ((name, v) :: members)
          (newline depth ++ prettyMember depth (name, v) ++ prettyMembers depth members ++ a)
  | [], _, name, v, a, h, ha => by
      have hname := nameText_stringText name (blanks_newline depth)
      have htext := MembersText.last hname (.mk blanks_space h ha)
      rw [prettyMembers, prettyMember]
      simpa using htext
  | (next, w) :: members, hmembers, name, v, a, h, ha => by
      have hname := nameText_stringText name (blanks_newline depth)
      have hnext := valueText_prettyText depth (hmembers (next, w) List.mem_cons_self)
      have hrest := membersText_prettyMembers depth members
        (fun m hm => hmembers m (List.mem_cons_of_mem (next, w) hm)) next hnext ha
      have htext := MembersText.cons hname (.mk blanks_space h .nil) hrest
      rw [prettyMembers, prettyMember]
      simpa using htext

end

/-! ## documents -/

/-- **A printed value is a document of it.** -/
theorem document_pretty {v : Json} (h : v.Fits) : Document v v.pretty := by
  have htext := ItemText.mk .nil (valueText_prettyText 0 h) .nil
  rw [List.nil_append, List.append_nil] at htext
  rwa [Document, pretty, String.toList_ofList]

/-- A printed value reads back. -/
theorem parse?_pretty {v : Json} (h : v.Fits) : parse? v.pretty = some v :=
  parse?_of_document (document_pretty h)

/-! ## control characters -/

/-- The control characters of a text, in order. -/
def controls (cs : List Char) : List Char := cs.filter fun c => c.toNat < 0x20

@[simp] theorem controls_nil : controls [] = [] := rfl

@[simp] theorem controls_append (cs ds : List Char) :
    controls (cs ++ ds) = controls cs ++ controls ds :=
  List.filter_append cs ds

@[simp] theorem controls_cons_of_le {c : Char} (h : 0x20 ≤ c.toNat) (cs : List Char) :
    controls (c :: cs) = controls cs :=
  List.filter_cons_of_neg (by simpa using h)

theorem controls_eq_nil {cs : List Char} (h : ∀ c ∈ cs, 0x20 ≤ c.toNat) : controls cs = [] :=
  List.filter_eq_nil_iff.mpr fun c hc => by simpa using h c hc

theorem le_of_mem_escape {c d : Char} (h : d ∈ escape c) : 0x20 ≤ d.toNat := by
  unfold escape at h
  repeat' split at h
  iterate 7
    · exact Text.le_of_mem_of_all (by decide) h
  · have hpieces : d ∈ ['\\', 'u', '0', '0'] ++
        [Nat.digitChar (c.toNat / 16), Nat.digitChar (c.toNat % 16)] := h
    rcases List.mem_append.mp hpieces with hopen | hdigits
    · exact Text.le_of_mem_of_all (by decide) hopen
    · rcases List.mem_pair.mp hdigits with rfl | rfl <;> exact Text.le_toNat_digitChar _
  · next hcontrol =>
      rw [List.mem_singleton.mp h]
      exact Nat.not_lt.mp hcontrol

/-- A string holds no control character of its own. -/
@[simp] theorem controls_stringText (s : String) : controls (stringText s) = [] := by
  refine controls_eq_nil fun c hc => ?_
  rw [stringText, List.mem_append, List.mem_cons] at hc
  obtain (rfl | hinside) | hclose := hc
  · decide
  · obtain ⟨d, -, hescape⟩ := List.mem_flatMap.mp hinside
    exact le_of_mem_escape hescape
  · rw [List.mem_singleton.mp hclose]
    decide

/-- Indentation has one control character, the line break. -/
@[simp] theorem controls_newline (depth : Nat) : controls (newline depth) = ['\n'] := by
  simp [controls, newline]

/-! ## what documents stand for -/

theorem fits_ofParts (negative : Bool) (whole : List Char) (fraction? : Option (List Char))
    (exponent? : Option Int) : Fits (.number (.ofParts negative whole fraction? exponent?)) := by
  have hsize : UInt64.size = 2 ^ 64 := rfl
  simp only [Number.ofParts]
  repeat' split
  · exact .integer (by omega) (by omega)
  · exact .decimal _ _ _
  · exact .integer (by omega) (by omega)
  · exact .decimal _ _ _
  · exact .decimal _ _ _

mutual

theorem ValueText.fits : ∀ {v : Json} {cs : List Char}, ValueText v cs → Fits v
  | _, _, .null => .null
  | _, _, .true => .bool true
  | _, _, .false => .bool false
  | _, _, .number (.mk negative _ _ _) => fits_ofParts negative _ _ _
  | _, _, .string _ => .string _
  | _, _, .emptyArray _ => .array (fun _ h => nomatch h)
  | _, _, .array h => .array h.fits
  | _, _, .emptyObject _ => .object (fun _ h => nomatch h)
  | _, _, .object h => .object h.fits

theorem ItemText.fits : ∀ {v : Json} {cs : List Char}, ItemText v cs → Fits v
  | _, _, .mk _ h _ => h.fits

theorem ItemsText.fits : ∀ {vs : List Json} {cs : List Char}, ItemsText vs cs → ∀ v ∈ vs, Fits v
  | _, _, .last h => List.forall_mem_singleton.mpr h.fits
  | _, _, .cons h hs => List.forall_mem_cons.mpr ⟨h.fits, hs.fits⟩

theorem MembersText.fits : ∀ {ms : List (String × Json)} {cs : List Char},
    MembersText ms cs → ∀ m ∈ ms, Fits m.2
  | _, _, .last _ h => List.forall_mem_singleton.mpr h.fits
  | _, _, .cons _ h hs => List.forall_mem_cons.mpr ⟨h.fits, hs.fits⟩

end

/-- Exactly the values that fit have documents. -/
theorem exists_document_iff {v : Json} : (∃ text, Document v text) ↔ v.Fits :=
  ⟨fun ⟨_, h⟩ => h.fits, fun h => ⟨v.pretty, document_pretty h⟩⟩

end ComponentBrowser.Json
