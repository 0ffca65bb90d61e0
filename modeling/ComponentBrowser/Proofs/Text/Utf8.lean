import ComponentBrowser.Text.Utf8

/-!
# ComponentBrowser.Proofs.Text.Utf8

Text survives as bytes: what `encode` writes, the decoder reads back.

The decoder is a fold, so it is enough that it reads one character back and
is then as it was before: `run_encodeChar`.  The encodings of two, three and
four bytes each have a lemma about their lead byte; the bounds that it sets to
the second byte hold because a character is no surrogate and needs the bytes
that it has.

* `run_encode` — a decoder reads a text behind what it has read;
* `decode?_encode`, `decode_encode` — both readings give the text back;
* `toText?_ofText`, `toText_ofText` — so do those of bytes;
* `length_ofText` — a text has as many bytes as its size says.
-/

namespace ComponentBrowser

namespace Utf8

open Decoder

/-! ## lead bytes -/

theorem lead?_two {b : UInt8} {k : Nat} (hb : b.toNat = k + 0xC0) (hlow : 2 ≤ k) (hhigh : k < 32) :
    lead? b = some ⟨[b], k, 1, 0x80, 0xBF⟩ := by
  have hvalue : (k + 0xC0) % 32 = k := by omega
  simp only [lead?, UInt8.lt_iff_toNat_lt, hb, hvalue, UInt8.reduceToNat]
  rw [if_neg (by omega), if_pos (by omega)]

/-- The second byte of three may not be low behind the least lead byte, where
two bytes would do, nor high behind the lead byte of the surrogates. -/
theorem lead?_three {b : UInt8} {k : Nat} (hb : b.toNat = k + 0xE0) (hk : k < 16) :
    lead? b = some ⟨[b], k, 2, if k = 0 then 0xA0 else 0x80, if k = 13 then 0x9F else 0xBF⟩ := by
  have hvalue : (k + 0xE0) % 16 = k := by omega
  simp only [lead?, UInt8.lt_iff_toNat_lt, ← UInt8.toNat_inj, hb, hvalue, UInt8.reduceToNat]
  rw [if_neg (by omega), if_neg (by omega)]
  by_cases hfirst : k = 0
  · rw [if_pos (by omega), if_pos hfirst, if_neg (by omega)]
  · by_cases hsurrogate : k = 13
    · rw [if_neg (by omega), if_pos (by omega), if_neg hfirst, if_pos hsurrogate]
    · rw [if_neg (by omega), if_neg (by omega), if_pos (by omega), if_neg hfirst,
        if_neg hsurrogate]

/-- The second byte of four may not be low behind the least lead byte, where
three bytes would do, nor high behind the greatest, where code points end. -/
theorem lead?_four {b : UInt8} {k : Nat} (hb : b.toNat = k + 0xF0) (hk : k ≤ 4) :
    lead? b = some ⟨[b], k, 3, if k = 0 then 0x90 else 0x80, if k = 4 then 0x8F else 0xBF⟩ := by
  have hvalue : (k + 0xF0) % 8 = k := by omega
  simp only [lead?, UInt8.lt_iff_toNat_lt, ← UInt8.toNat_inj, hb, hvalue, UInt8.reduceToNat]
  rw [if_neg (by omega), if_neg (by omega), if_neg (by omega), if_neg (by omega),
    if_neg (by omega)]
  by_cases hfirst : k = 0
  · rw [if_pos (by omega), if_pos hfirst, if_neg (by omega)]
  · by_cases hlast : k = 4
    · rw [if_neg (by omega), if_neg (by omega), if_pos (by omega), if_neg hfirst, if_pos hlast]
    · rw [if_neg (by omega), if_pos (by omega), if_neg hfirst, if_neg hlast]

/-- A lead byte opens a sequence. -/
theorem feed_lead {b : UInt8} {p : Partial} (finished : List Segment) (hb : 0x80 ≤ b.toNat)
    (hlead : lead? b = some p) : feed ⟨finished, none⟩ b = ⟨finished, some p⟩ := by
  have hnot : ¬ b < 0x80 := by
    rw [UInt8.lt_iff_toNat_lt]
    exact Nat.not_lt_of_le hb
  simp only [feed, start, if_neg hnot, hlead]

/-! ## the bytes behind them -/

/-- A byte that goes on a sequence, with the six bits that it carries. -/
def tail (n : Nat) : UInt8 := UInt8.ofNat (n % 64 + 0x80)

/-- The byte of six bits is within the bounds that a sequence sets to it. -/
def Admits (low high : UInt8) (n : Nat) : Prop := low ≤ tail n ∧ tail n ≤ high

theorem toNat_tail (n : Nat) : (tail n).toNat = n % 64 + 0x80 := by
  rw [tail, UInt8.toNat_ofNat', Nat.mod_eq_of_lt (by omega)]

theorem admits_any (n : Nat) : Admits 0x80 0xBF n := by
  rw [Admits, UInt8.le_iff_toNat_le, UInt8.le_iff_toNat_le, toNat_tail]
  change 128 ≤ _ ∧ _ ≤ 191
  omega

/-- The second byte has a bound of its own behind the least lead byte and
behind one other. -/
theorem admits_second {low high : UInt8} {k other n : Nat}
    (hlow : k = 0 → low.toNat ≤ n % 64 + 0x80) (hhigh : k = other → n % 64 + 0x80 ≤ high.toNat) :
    Admits (if k = 0 then low else 0x80) (if k = other then high else 0xBF) n := by
  obtain ⟨hleast, hgreatest⟩ := admits_any n
  constructor
  · split
    · next hk =>
        rw [UInt8.le_iff_toNat_le, toNat_tail]
        exact hlow hk
    · exact hleast
  · split
    · next hk =>
        rw [UInt8.le_iff_toNat_le, toNat_tail]
        exact hhigh hk
    · exact hgreatest

/-- A byte within the bounds goes on a sequence that needs more. -/
theorem feed_tail_more (finished : List Segment) {seen : Bytes} {value missing n : Nat}
    {low high : UInt8} (h : Admits low high n) :
    feed ⟨finished, some ⟨seen, value, missing + 2, low, high⟩⟩ (tail n) =
      ⟨finished, some ⟨seen ++ [tail n], value * 64 + n % 64, missing + 1, 0x80, 0xBF⟩⟩ := by
  have hvalue : (n % 64 + 0x80) % 64 = n % 64 := by omega
  have hmissing : ¬ missing + 2 ≤ 1 := by omega
  have hbounds : low ≤ tail n ∧ tail n ≤ high := h
  simp only [feed, toNat_tail, hvalue]
  rw [if_pos hbounds, if_neg hmissing]
  rfl

/-- The last byte that a sequence needs gives its character. -/
theorem feed_tail_last (finished : List Segment) {seen : Bytes} {value n : Nat}
    {low high : UInt8} (h : Admits low high n) :
    feed ⟨finished, some ⟨seen, value, 1, low, high⟩⟩ (tail n) =
      ⟨.scalar (Char.ofNat (value * 64 + n % 64)) :: finished, none⟩ := by
  have hvalue : (n % 64 + 0x80) % 64 = n % 64 := by omega
  have hbounds : low ≤ tail n ∧ tail n ≤ high := h
  simp only [feed, toNat_tail, hvalue]
  rw [if_pos hbounds, if_pos (Nat.le_refl 1)]

/-! ## one character -/

theorem run_one (finished : List Segment) {v : Nat} (h : v < 0x80) :
    run ⟨finished, none⟩ [UInt8.ofNat v] = ⟨.scalar (Char.ofNat v) :: finished, none⟩ := by
  have hb : (UInt8.ofNat v).toNat = v := by rw [UInt8.toNat_ofNat', Nat.mod_eq_of_lt (by omega)]
  have hascii : UInt8.ofNat v < 0x80 := by
    rw [UInt8.lt_iff_toNat_lt, hb]
    exact h
  simp only [run, List.foldl_cons, List.foldl_nil, feed, start, if_pos hascii, hb]

theorem run_two (finished : List Segment) {v : Nat} (hlow : 0x80 ≤ v) (hhigh : v < 0x800) :
    run ⟨finished, none⟩ [UInt8.ofNat (v / 64 % 32 + 0xC0), tail v] =
      ⟨.scalar (Char.ofNat v) :: finished, none⟩ := by
  have hb : (UInt8.ofNat (v / 64 % 32 + 0xC0)).toNat = v / 64 + 0xC0 := by
    rw [UInt8.toNat_ofNat']
    omega
  have hlead := feed_lead finished (by omega) (lead?_two hb (by omega) (by omega))
  have hvalue : v / 64 * 64 + v % 64 = v := by omega
  simp only [run, List.foldl_cons, List.foldl_nil, hlead]
  rw [feed_tail_last finished (admits_any _), hvalue]

theorem run_three (finished : List Segment) {v : Nat} (hlow : 0x800 ≤ v) (hhigh : v < 0x10000)
    (hsurrogate : v < 0xD800 ∨ 0xDFFF < v) :
    run ⟨finished, none⟩ [UInt8.ofNat (v / 4096 % 16 + 0xE0), tail (v / 64), tail v] =
      ⟨.scalar (Char.ofNat v) :: finished, none⟩ := by
  have hb : (UInt8.ofNat (v / 4096 % 16 + 0xE0)).toNat = v / 4096 + 0xE0 := by
    rw [UInt8.toNat_ofNat']
    omega
  have hlead := feed_lead finished (by omega) (lead?_three hb (by omega))
  have hsecond : Admits (if v / 4096 = 0 then 0xA0 else 0x80)
      (if v / 4096 = 13 then 0x9F else 0xBF) (v / 64) := by
    apply admits_second
    · change _ → 160 ≤ _; omega
    · change _ → _ ≤ 159; omega
  have hvalue : (v / 4096 * 64 + v / 64 % 64) * 64 + v % 64 = v := by omega
  simp only [run, List.foldl_cons, List.foldl_nil, hlead]
  rw [feed_tail_more finished hsecond, feed_tail_last finished (admits_any _), hvalue]

theorem run_four (finished : List Segment) {v : Nat} (hlow : 0x10000 ≤ v) (hhigh : v < 0x110000) :
    run ⟨finished, none⟩
        [UInt8.ofNat (v / 262144 % 8 + 0xF0), tail (v / 4096), tail (v / 64), tail v] =
      ⟨.scalar (Char.ofNat v) :: finished, none⟩ := by
  have hb : (UInt8.ofNat (v / 262144 % 8 + 0xF0)).toNat = v / 262144 + 0xF0 := by
    rw [UInt8.toNat_ofNat']
    omega
  have hlead := feed_lead finished (by omega) (lead?_four hb (by omega))
  have hsecond : Admits (if v / 262144 = 0 then 0x90 else 0x80)
      (if v / 262144 = 4 then 0x8F else 0xBF) (v / 4096) := by
    apply admits_second
    · change _ → 144 ≤ _; omega
    · change _ → _ ≤ 143; omega
  have hvalue : ((v / 262144 * 64 + v / 4096 % 64) * 64 + v / 64 % 64) * 64 + v % 64 = v := by
    omega
  simp only [run, List.foldl_cons, List.foldl_nil, hlead]
  rw [feed_tail_more finished hsecond, feed_tail_more finished (admits_any _),
    feed_tail_last finished (admits_any _), hvalue]

theorem encodeChar_eq (c : Char) :
    String.utf8EncodeChar c =
      if c.toNat ≤ 0x7F then [UInt8.ofNat c.toNat]
      else if c.toNat ≤ 0x7FF then [UInt8.ofNat (c.toNat / 64 % 32 + 0xC0), tail c.toNat]
      else if c.toNat ≤ 0xFFFF then
        [UInt8.ofNat (c.toNat / 4096 % 16 + 0xE0), tail (c.toNat / 64), tail c.toNat]
      else [UInt8.ofNat (c.toNat / 262144 % 8 + 0xF0), tail (c.toNat / 4096),
        tail (c.toNat / 64), tail c.toNat] := rfl

/-- **A character is read back** from its bytes, and nothing is left open. -/
theorem run_encodeChar (finished : List Segment) (c : Char) :
    run ⟨finished, none⟩ (String.utf8EncodeChar c) = ⟨.scalar c :: finished, none⟩ := by
  have hvalid : c.toNat < 0xD800 ∨ 0xDFFF < c.toNat ∧ c.toNat < 0x110000 := c.valid
  have hc : Char.ofNat c.toNat = c := Char.ofNat_toNat c
  rw [encodeChar_eq]
  split
  · rw [run_one finished (by omega), hc]
  · split
    · rw [run_two finished (by omega) (by omega), hc]
    · split
      · rw [run_three finished (by omega) (by omega) (by omega), hc]
      · rw [run_four finished (by omega) (by omega), hc]

/-! ## whole texts -/

/-- A decoder with nothing open reads a text behind what it has read. -/
theorem run_encode (finished : List Segment) (text : List Char) :
    run ⟨finished, none⟩ (encode text) = ⟨(text.map .scalar).reverse ++ finished, none⟩ := by
  induction text generalizing finished with
  | nil => rfl
  | cons c text ih =>
      rw [encode, List.flatMap_cons, run_append, run_encodeChar, ← encode, ih]
      simp

theorem segments_encode (text : List Char) : segments (encode text) = text.map .scalar := by
  rw [segments, Decoder.empty, run_encode, finish, List.append_nil, List.reverse_reverse]

theorem decode_encode (text : List Char) : decode (encode text) = text := by
  rw [decode, segments_encode, List.map_map]
  exact List.map_id text

theorem decode?_encode (text : List Char) : decode? (encode text) = some text := by
  rw [decode?, segments_encode, List.mapM_map]
  induction text with
  | nil => rfl
  | cons c text ih => simp [List.mapM_cons, Segment.scalar?, ih]

end Utf8

/-! ## texts as bytes -/

theorem Bytes.toText?_ofText (text : String) : Bytes.toText? (Bytes.ofText text) = some text := by
  rw [toText?, ofText, Utf8.decode?_encode, Option.map_some, String.ofList_toList]

theorem Bytes.toText_ofText (text : String) : Bytes.toText (Bytes.ofText text) = text := by
  rw [toText, ofText, Utf8.decode_encode, String.ofList_toList]

theorem Bytes.length_ofText (text : String) : (Bytes.ofText text).length = text.utf8ByteSize := by
  have hsize : (String.ofList text.toList).utf8ByteSize = (Utf8.encode text.toList).length :=
    List.size_toByteArray
  rw [ofText, ← hsize, String.ofList_toList]

end ComponentBrowser
