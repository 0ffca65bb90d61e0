import ComponentBrowser.Json.Reader

/-!
# ComponentBrowser.Proofs.Json.Grammar

What a JSON document is: the grammar of the format, with the value that each
text stands for.

```
document  =  blanks value blanks
value     =  null | true | false | number | string | array | object
array     =  [ blanks ] | [ document , … , document ]
object    =  { blanks } | { blanks string blanks : document , … }
```

A string writes each of its characters in one of four ways (`CharText`), and a
number is an optional sign, digits, an optional fraction and an optional
exponent (`NumberText`).

* `Json.Document` — a text is a document of a value;
* `ValueText.exists_cons` — the first character of a value is none that stands
  between values.
-/

namespace ComponentBrowser.Json

/-! ## blanks -/

/-- White space between tokens. -/
def Blanks (cs : List Char) : Prop := ∀ c ∈ cs, c = ' ' ∨ c = '\t' ∨ c = '\n' ∨ c = '\r'

theorem Blanks.nil : Blanks [] := fun _ h => nomatch h

/-! ## strings -/

/-- The letters that stand for a character behind a backslash. -/
def letters : List (Char × Char) :=
  [('"', '"'), ('\\', '\\'), ('/', '/'), ('b', '\x08'), ('f', '\x0c'), ('n', '\n'), ('r', '\r'),
   ('t', '\t')]

/-- Four hexadecimal digits and their number. -/
inductive FourDigits : Nat → List Char → Prop where
  | mk {a b c d : Char} {i j k l : Nat} (ha : Hexadecimal.value? a = some i)
      (hb : Hexadecimal.value? b = some j) (hc : Hexadecimal.value? c = some k)
      (hd : Hexadecimal.value? d = some l) :
      FourDigits (((i * 16 + j) * 16 + k) * 16 + l) [a, b, c, d]

/-- How a string writes a character. -/
inductive CharText : Char → List Char → Prop where
  /-- As itself, if it is no quote, no backslash and no control character. -/
  | plain {c : Char} (hquote : c ≠ '"') (hbackslash : c ≠ '\\') (hcontrol : 0x20 ≤ c.toNat) :
      CharText c [c]
  /-- By a letter. -/
  | letter {letter c : Char} (h : (letter, c) ∈ letters) : CharText c ['\\', letter]
  /-- By its number. -/
  | number {c : Char} {ds : List Char} (h : FourDigits c.toNat ds) :
      CharText c ('\\' :: 'u' :: ds)
  /-- By two numbers, if its own is beyond four digits. -/
  | pair {c : Char} {high low : Nat} {ds es : List Char} (hhigh : high < 0x400)
      (hlow : low < 0x400) (hc : c.toNat = 0x10000 + high * 0x400 + low)
      (hds : FourDigits (0xD800 + high) ds) (hes : FourDigits (0xDC00 + low) es) :
      CharText c ('\\' :: 'u' :: (ds ++ '\\' :: 'u' :: es))

/-- How a string writes its characters between the quotes. -/
inductive StringText : List Char → List Char → Prop where
  | nil : StringText [] []
  | cons {c : Char} {cs text texts : List Char} (h : CharText c text) (hs : StringText cs texts) :
      StringText (c :: cs) (text ++ texts)

/-! ## numbers -/

/-- One digit or more. -/
def Digits (ds : List Char) : Prop := ds ≠ [] ∧ ∀ c ∈ ds, Decimal.isDigit c = true

/-- The digits before the point: no zero leads them. -/
def WholeDigits (ds : List Char) : Prop := Digits ds ∧ (ds.head? = some '0' → ds = ['0'])

/-- The digits behind the point. -/
inductive FractionText : Option (List Char) → List Char → Prop where
  | none : FractionText none []
  | some {ds : List Char} (h : Digits ds) : FractionText (some ds) ('.' :: ds)

/-- The exponent. -/
inductive ExponentText : Option Int → List Char → Prop where
  | none : ExponentText none []
  | unsigned {e : Char} {ds : List Char} (he : e = 'e' ∨ e = 'E') (h : Digits ds) :
      ExponentText (some (Decimal.value ds)) (e :: ds)
  | plus {e : Char} {ds : List Char} (he : e = 'e' ∨ e = 'E') (h : Digits ds) :
      ExponentText (some (Decimal.value ds)) (e :: '+' :: ds)
  | minus {e : Char} {ds : List Char} (he : e = 'e' ∨ e = 'E') (h : Digits ds) :
      ExponentText (some (-(Decimal.value ds : Int))) (e :: '-' :: ds)

/-- How a number is written. -/
inductive NumberText : Number → List Char → Prop where
  | mk {whole fractionText exponentText : List Char} {fraction? : Option (List Char)}
      {exponent? : Option Int} (negative : Bool) (hwhole : WholeDigits whole)
      (hfraction : FractionText fraction? fractionText)
      (hexponent : ExponentText exponent? exponentText) :
      NumberText (.ofParts negative whole fraction? exponent?)
        ((if negative then ['-'] else []) ++ whole ++ fractionText ++ exponentText)

/-! ## values -/

/-- The name of a member, with the colon behind it. -/
inductive NameText : String → List Char → Prop where
  | mk {name : String} {b body a : List Char} (hb : Blanks b)
      (h : StringText name.toList body) (ha : Blanks a) :
      NameText name (b ++ '"' :: body ++ '"' :: a ++ [':'])

mutual

/-- How a value is written. -/
inductive ValueText : Json → List Char → Prop where
  | null : ValueText .null ['n', 'u', 'l', 'l']
  | true : ValueText (.bool true) ['t', 'r', 'u', 'e']
  | false : ValueText (.bool false) ['f', 'a', 'l', 's', 'e']
  | number {n : Number} {cs : List Char} (h : NumberText n cs) : ValueText (.number n) cs
  | string {s : String} {body : List Char} (h : StringText s.toList body) :
      ValueText (.string s) ('"' :: body ++ ['"'])
  | emptyArray {b : List Char} (hb : Blanks b) : ValueText (.array []) ('[' :: b ++ [']'])
  | array {items : List Json} {cs : List Char} (h : ItemsText items cs) :
      ValueText (.array items) ('[' :: cs ++ [']'])
  | emptyObject {b : List Char} (hb : Blanks b) :
      ValueText (.object []) ('\x7b' :: b ++ ['\x7d'])
  | object {members : List (String × Json)} {cs : List Char} (h : MembersText members cs) :
      ValueText (.object members) ('\x7b' :: cs ++ ['\x7d'])

/-- A value with blanks around it. -/
inductive ItemText : Json → List Char → Prop where
  | mk {v : Json} {b cs a : List Char} (hb : Blanks b) (h : ValueText v cs) (ha : Blanks a) :
      ItemText v (b ++ cs ++ a)

/-- The items of an array. -/
inductive ItemsText : List Json → List Char → Prop where
  | last {v : Json} {cs : List Char} (h : ItemText v cs) : ItemsText [v] cs
  | cons {v : Json} {vs : List Json} {cs ds : List Char} (h : ItemText v cs)
      (hs : ItemsText vs ds) : ItemsText (v :: vs) (cs ++ ',' :: ds)

/-- The members of an object. -/
inductive MembersText : List (String × Json) → List Char → Prop where
  | last {name : String} {v : Json} {ns cs : List Char} (hname : NameText name ns)
      (h : ItemText v cs) : MembersText [(name, v)] (ns ++ cs)
  | cons {name : String} {v : Json} {ms : List (String × Json)} {ns cs ds : List Char}
      (hname : NameText name ns) (h : ItemText v cs) (hs : MembersText ms ds) :
      MembersText ((name, v) :: ms) (ns ++ cs ++ ',' :: ds)

end

/-- A text is a document of a value: the value, and nothing but blanks around
it. -/
def Document (v : Json) (text : String) : Prop := ItemText v text.toList

/-! ## the first character -/

/-- The characters that a value may begin with. -/
def Opens (c : Char) : Prop :=
  c ∈ ['n', 't', 'f', '"', '[', '\x7b', '-'] ∨ Decimal.isDigit c = true

theorem NumberText.exists_cons {n : Number} {cs : List Char} (h : NumberText n cs) :
    ∃ c rest, cs = c :: rest ∧ (c = '-' ∨ Decimal.isDigit c = true) := by
  obtain ⟨negative, ⟨⟨hne, hdigits⟩, -⟩, -, -⟩ := h
  cases negative with
  | true => exact ⟨'-', _, rfl, .inl rfl⟩
  | false =>
      obtain ⟨d, ds, rfl⟩ := List.exists_cons_of_ne_nil hne
      exact ⟨d, _, rfl, .inr (hdigits d List.mem_cons_self)⟩

/-- A value begins with a character that none of the signs between values is. -/
theorem ValueText.exists_cons {v : Json} {cs : List Char} (h : ValueText v cs) :
    ∃ c rest, cs = c :: rest ∧ Opens c := by
  cases h with
  | null => exact ⟨'n', _, rfl, .inl (by decide)⟩
  | true => exact ⟨'t', _, rfl, .inl (by decide)⟩
  | false => exact ⟨'f', _, rfl, .inl (by decide)⟩
  | string _ => exact ⟨'"', _, rfl, .inl (by decide)⟩
  | emptyArray _ | array _ => exact ⟨'[', _, rfl, .inl (by decide)⟩
  | emptyObject _ | object _ => exact ⟨'\x7b', _, rfl, .inl (by decide)⟩
  | number h =>
      obtain ⟨c, rest, rfl, hc⟩ := h.exists_cons
      exact ⟨c, rest, rfl, hc.imp (fun h => by rw [h]; decide) id⟩

end ComponentBrowser.Json
