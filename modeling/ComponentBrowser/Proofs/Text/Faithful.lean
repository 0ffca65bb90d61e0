import ComponentBrowser.Files.Path
import ComponentBrowser.Proofs.Text.Grouped
import ComponentBrowser.Proofs.Text.Quoted
import ComponentBrowser.Proofs.Text.Segments
import ComponentBrowser.Proofs.Text.Utf8
import ComponentBrowser.Text.Hexadecimal

/-!
# ComponentBrowser.Proofs.Text.Faithful

Quoting is faithful: what is quoted can be told from the quoted text, whether
it is text or not.

A decoder loses no byte: the segments that it has finished and the sequence that
is open are, one after another, the bytes that it has read.  And the escapes of
characters and of single bytes are a code of which no word begins another, so
that the quoted text says which of them stand in it.

* `sound_lead?` — what a lead byte promises of the bytes behind it;
* `bytes_feed` — a decoder loses no byte;
* `flatMap_bytes_segments` — the segments of a byte sequence give it back;
* `form_append_inj` — one escape, and what follows it, from the front of a text;
* `Path.quoted_injective` — two paths are never quoted alike.
-/

namespace ComponentBrowser

namespace Utf8

/-! ## the bytes of a character -/

theorem toNat_char_ofNat {v : Nat} (h : v < 0xD800 ∨ 0xDFFF < v ∧ v < 0x110000) :
    (Char.ofNat v).toNat = v := by
  have hvalid : v.isValidChar := h
  rw [Char.ofNat, dif_pos hvalid]
  rfl

/-- Whether a byte goes on a sequence. -/
def IsTail (b : UInt8) : Prop := 0x80 ≤ b.toNat ∧ b.toNat ≤ 0xBF

theorem encodeChar_two {b c : UInt8} (hb : 0xC2 ≤ b.toNat ∧ b.toNat < 0xE0) (hc : IsTail c) :
    String.utf8EncodeChar (Char.ofNat (b.toNat % 32 * 64 + c.toNat % 64)) = [b, c] := by
  obtain ⟨hlow, hhigh⟩ := hc
  rw [encodeChar_eq, toNat_char_ofNat (by omega), if_neg (by omega), if_pos (by omega)]
  simp only [List.cons.injEq, and_true, ← UInt8.toNat_inj, toNat_tail, UInt8.toNat_ofNat']
  omega

theorem encodeChar_three {b c d : UInt8} (hb : 0xE0 ≤ b.toNat ∧ b.toNat < 0xF0) (hc : IsTail c)
    (hd : IsTail d) (hleast : b.toNat = 0xE0 → 0xA0 ≤ c.toNat)
    (hsurrogate : b.toNat = 0xED → c.toNat ≤ 0x9F) :
    String.utf8EncodeChar
      (Char.ofNat ((b.toNat % 16 * 64 + c.toNat % 64) * 64 + d.toNat % 64)) = [b, c, d] := by
  obtain ⟨hclow, hchigh⟩ := hc
  obtain ⟨hdlow, hdhigh⟩ := hd
  rw [encodeChar_eq, toNat_char_ofNat (by omega), if_neg (by omega), if_neg (by omega),
    if_pos (by omega)]
  simp only [List.cons.injEq, and_true, ← UInt8.toNat_inj, toNat_tail, UInt8.toNat_ofNat']
  omega

theorem encodeChar_four {b c d e : UInt8} (hb : 0xF0 ≤ b.toNat ∧ b.toNat ≤ 0xF4) (hc : IsTail c)
    (hd : IsTail d) (he : IsTail e) (hleast : b.toNat = 0xF0 → 0x90 ≤ c.toNat)
    (hgreatest : b.toNat = 0xF4 → c.toNat ≤ 0x8F) :
    String.utf8EncodeChar
      (Char.ofNat (((b.toNat % 8 * 64 + c.toNat % 64) * 64 + d.toNat % 64) * 64 + e.toNat % 64)) =
        [b, c, d, e] := by
  obtain ⟨hclow, hchigh⟩ := hc
  obtain ⟨hdlow, hdhigh⟩ := hd
  obtain ⟨helow, hehigh⟩ := he
  rw [encodeChar_eq, toNat_char_ofNat (by omega), if_neg (by omega), if_neg (by omega),
    if_neg (by omega)]
  simp only [List.cons.injEq, and_true, ← UInt8.toNat_inj, toNat_tail, UInt8.toNat_ofNat']
  omega

/-! ## open sequences -/

/-- The payload bits of further bytes. -/
def addTails (value : Nat) (bytes : Bytes) : Nat :=
  bytes.foldl (fun value b => value * 64 + b.toNat % 64) value

/-- An open sequence is part of a character: whatever bytes it may take next, as
many as it misses, give a character with just these bytes. -/
structure Partial.Sound (p : Partial) : Prop where
  missing_pos : 0 < p.missing
  encodeChar : ∀ b rest, p.low ≤ b → b ≤ p.high → (∀ c ∈ rest, IsTail c) →
    rest.length + 1 = p.missing →
    String.utf8EncodeChar (Char.ofNat (addTails p.value (b :: rest))) = p.seen ++ b :: rest

section LeadBytes

variable {b low high : UInt8} (hlow : 0x80 ≤ low.toNat) (hhigh : high.toNat ≤ 0xBF)
include hlow hhigh

theorem sound_two (hb : 0xC2 ≤ b.toNat ∧ b.toNat < 0xE0) :
    Partial.Sound ⟨[b], b.toNat % 32, 1, low, high⟩ where
  missing_pos := Nat.one_pos
  encodeChar c rest hclow hchigh _ hlength := by
    obtain rfl := List.eq_nil_of_length_eq_zero (Nat.succ.inj hlength)
    exact encodeChar_two hb
      ⟨Nat.le_trans hlow (UInt8.le_iff_toNat_le.mp hclow),
        Nat.le_trans (UInt8.le_iff_toNat_le.mp hchigh) hhigh⟩

theorem sound_three (hb : 0xE0 ≤ b.toNat ∧ b.toNat < 0xF0)
    (hleast : b.toNat = 0xE0 → 0xA0 ≤ low.toNat) (hsurrogate : b.toNat = 0xED → high.toNat ≤ 0x9F) :
    Partial.Sound ⟨[b], b.toNat % 16, 2, low, high⟩ where
  missing_pos := Nat.two_pos
  encodeChar c rest hclow hchigh hrest hlength := by
    obtain ⟨d, rfl⟩ := List.length_eq_one_iff.mp (Nat.succ.inj hlength)
    have hclow := UInt8.le_iff_toNat_le.mp hclow
    have hchigh := UInt8.le_iff_toNat_le.mp hchigh
    exact encodeChar_three hb ⟨Nat.le_trans hlow hclow, Nat.le_trans hchigh hhigh⟩
      (hrest d List.mem_cons_self) (fun h => Nat.le_trans (hleast h) hclow)
      (fun h => Nat.le_trans hchigh (hsurrogate h))

theorem sound_four (hb : 0xF0 ≤ b.toNat ∧ b.toNat ≤ 0xF4)
    (hleast : b.toNat = 0xF0 → 0x90 ≤ low.toNat) (hgreatest : b.toNat = 0xF4 → high.toNat ≤ 0x8F) :
    Partial.Sound ⟨[b], b.toNat % 8, 3, low, high⟩ where
  missing_pos := Nat.succ_pos 2
  encodeChar c rest hclow hchigh hrest hlength := by
    have hclow := UInt8.le_iff_toNat_le.mp hclow
    have hchigh := UInt8.le_iff_toNat_le.mp hchigh
    match rest, hlength with
    | [d, e], _ =>
        obtain ⟨hd, he⟩ := List.forall_mem_cons.mp hrest
        exact encodeChar_four hb ⟨Nat.le_trans hlow hclow, Nat.le_trans hchigh hhigh⟩ hd
          (he e List.mem_cons_self) (fun h => Nat.le_trans (hleast h) hclow)
          (fun h => Nat.le_trans hchigh (hgreatest h))

end LeadBytes

/-- **A lead byte** opens part of a character. -/
theorem sound_lead? {b : UInt8} {p : Partial} (h : Decoder.lead? b = some p) : p.Sound := by
  simp only [Decoder.lead?, UInt8.lt_iff_toNat_lt, ← UInt8.toNat_inj, UInt8.reduceToNat] at h
  repeat' split at h
  all_goals simp only [Option.some.injEq, reduceCtorEq] at h
  all_goals subst h
  · exact sound_two (by decide) (by decide) (by omega)
  · exact sound_three (by decide) (by decide) (by omega) (fun _ => by decide) (by omega)
  · exact sound_three (by decide) (by decide) (by omega) (by omega) (fun _ => by decide)
  · exact sound_three (by decide) (by decide) (by omega) (by omega) (by omega)
  · exact sound_four (by decide) (by decide) (by omega) (fun _ => by decide) (by omega)
  · exact sound_four (by decide) (by decide) (by omega) (by omega) (by omega)
  · exact sound_four (by decide) (by decide) (by omega) (by omega) (fun _ => by decide)

/-! ## what a decoder has read -/

/-- The bytes of a segment. -/
def Segment.bytes : Segment → Bytes
  | .scalar c => String.utf8EncodeChar c
  | .broken bytes => bytes

namespace Decoder

/-- The bytes that a decoder has read: those of its segments, and the open
sequence. -/
def bytes (d : Decoder) : Bytes := d.finish.flatMap Segment.bytes

/-- What is open is part of a character. -/
def Sound (d : Decoder) : Prop := ∀ p ∈ d.pending, p.Sound

variable {d : Decoder}

theorem bytes_closed (finished : List Segment) :
    bytes ⟨finished, none⟩ = finished.reverse.flatMap Segment.bytes := rfl

theorem bytes_open (finished : List Segment) (p : Partial) :
    bytes ⟨finished, some p⟩ = finished.reverse.flatMap Segment.bytes ++ p.seen := by
  simp [bytes, finish, Segment.bytes]

theorem bytes_finished_cons (finished : List Segment) (segment : Segment) :
    bytes ⟨segment :: finished, none⟩ =
      finished.reverse.flatMap Segment.bytes ++ segment.bytes := by
  simp [bytes_closed]

theorem bytes_start (finished : List Segment) (b : UInt8) :
    (start finished b).bytes = finished.reverse.flatMap Segment.bytes ++ [b] ∧
      (start finished b).Sound := by
  unfold start
  split
  · next hascii =>
      have hb : b.toNat < 0x80 := UInt8.lt_iff_toNat_lt.mp hascii
      have hchar : String.utf8EncodeChar (Char.ofNat b.toNat) = [b] := by
        rw [encodeChar_eq, toNat_char_ofNat (by omega), if_pos (by omega), UInt8.ofNat_toNat]
      exact ⟨by rw [bytes_finished_cons, Segment.bytes, hchar], nofun⟩
  · split
    · next p hlead =>
        refine ⟨by rw [bytes_open, (seen_of_lead? hlead).1], ?_⟩
        rintro q ⟨⟩
        exact sound_lead? hlead
    · exact ⟨by rw [bytes_finished_cons, Segment.bytes], nofun⟩

/-- **A decoder loses no byte**, and what it has open stays part of a character. -/
theorem bytes_feed (h : d.Sound) (b : UInt8) :
    (d.feed b).bytes = d.bytes ++ [b] ∧ (d.feed b).Sound := by
  obtain ⟨finished, pending⟩ := d
  cases pending with
  | none => exact bytes_start finished b
  | some p =>
      obtain ⟨hpos, hencode⟩ := h p rfl
      rw [bytes_open]
      unfold feed
      dsimp only
      split
      · next hbounds =>
          split
          · next hlast =>
              have hchar := hencode b [] hbounds.1 hbounds.2 nofun (by simp only [List.length_nil]; omega)
              refine ⟨?_, nofun⟩
              rw [bytes_finished_cons, List.append_assoc, ← hchar]
              rfl
          · refine ⟨by rw [bytes_open, List.append_assoc], ?_⟩
            rintro q ⟨⟩
            refine ⟨by dsimp only; omega, fun c rest hlow hhigh hrest hlength => ?_⟩
            have htail : ∀ c' ∈ c :: rest, IsTail c' :=
              List.forall_mem_cons.mpr ⟨⟨UInt8.le_iff_toNat_le.mp hlow,
                UInt8.le_iff_toNat_le.mp hhigh⟩, hrest⟩
            have hmore := hencode b (c :: rest) hbounds.1 hbounds.2 htail
              (by simp only [List.length_cons]; dsimp only at hlength; omega)
            rw [List.append_assoc]
            exact hmore
      · obtain ⟨hbytes, hsound⟩ := bytes_start (.broken p.seen :: finished) b
        refine ⟨?_, hsound⟩
        rw [hbytes, List.reverse_cons, List.flatMap_append, List.flatMap_singleton, Segment.bytes]

theorem bytes_run (h : d.Sound) (bytes : Bytes) :
    (run d bytes).bytes = d.bytes ++ bytes := by
  induction bytes generalizing d with
  | nil => exact (List.append_nil _).symm
  | cons b bytes ih =>
      obtain ⟨hbytes, hsound⟩ := bytes_feed h b
      rw [run, List.foldl_cons, ← run, ih hsound, hbytes, List.append_assoc]
      rfl

end Decoder

/-- **The segments of a byte sequence give it back.** -/
theorem flatMap_bytes_segments (bytes : Bytes) :
    (segments bytes).flatMap Segment.bytes = bytes :=
  Decoder.bytes_run (fun _ hp => by cases hp) bytes

end Utf8

namespace Text

/-! ## escapes -/

/-- What an escape stands for: a character, or a byte that belongs to none. -/
abbrev Letter := Char ⊕ UInt8

/-- A letter inside quotes. -/
def shown : Letter → List Char
  | .inl c => escape c
  | .inr b => escapeByte b

/-- The characters with a short escape, and the letter that it has. -/
def shortEscapes : List (Char × Char) :=
  [('\x00', '0'), ('\t', 't'), ('\r', 'r'), ('\n', 'n'), ('"', '"'), ('\\', '\\')]

/-- The forms of what stands for a letter. -/
inductive Form : Letter → List Char → Prop
  | short {c l : Char} (h : (c, l) ∈ shortEscapes) : Form (.inl c) ['\\', l]
  | plain {c : Char} (h : c ≠ '\\') : Form (.inl c) [c]
  | codePoint (c : Char) :
    Form (.inl c) ('\\' :: 'u' :: '\x7b' :: (Nat.toDigits 16 c.toNat ++ ['\x7d']))
  | byte (b : UInt8) : Form (.inr b)
    ['\\', 'x', (Nat.digitChar (b.toNat / 16)).toUpper, (Nat.digitChar (b.toNat % 16)).toUpper]

theorem form_shown (x : Letter) : Form x (shown x) := by
  cases x with
  | inr b => exact .byte b
  | inl c =>
      rw [shown, escape]
      repeat' split
      iterate 6
        · next h =>
            subst h
            exact .short (by decide)
      · next h _ => exact .plain h
      · exact .codePoint c

/-- The number that hexadecimal digits stand for. -/
def hexValue (cs : List Char) : Nat :=
  cs.foldl (fun n c => 16 * n + (Hexadecimal.value? c).getD 0) 0

theorem hexValue_toDigits (n : Nat) : hexValue (Nat.toDigits 16 n) = n := by
  have hdigit : ∀ m < 16, (Hexadecimal.value? m.digitChar).getD 0 = m := by decide
  induction n using Nat.strongRecOn with
  | ind n ih =>
      rw [Nat.toDigits_eq_if (by decide)]
      split
      · next hn => simp [hexValue, hdigit n hn]
      · have hfront := ih (n / 16) (by omega)
        have hlast := hdigit (n % 16) (Nat.mod_lt n (by decide))
        simp only [hexValue, List.foldl_append, List.foldl_cons, List.foldl_nil, hlast] at hfront ⊢
        omega

theorem toUpper_digitChar_inj {m n : Nat} (hm : m < 16) (hn : n < 16)
    (h : (Nat.digitChar m).toUpper = (Nat.digitChar n).toUpper) : m = n := by
  have hall : ∀ m < 16, ∀ n < 16,
      (Nat.digitChar m).toUpper = (Nat.digitChar n).toUpper → m = n := by decide
  exact hall m hm n hn h

/-- **No escape begins another**: a letter is told by the text that begins with
it, and so is what follows. -/
theorem form_append_inj {x y : Letter} {v w rest rest' : List Char} (hx : Form x v)
    (hy : Form y w) (h : v ++ rest = w ++ rest') : x = y ∧ rest = rest' := by
  have hshort : ∀ p ∈ shortEscapes, ∀ q ∈ shortEscapes, p.2 = q.2 → p.1 = q.1 := by decide
  have hmarks : ∀ p ∈ shortEscapes, p.2 ≠ 'u' ∧ p.2 ≠ 'x' := by decide
  cases hx with
  | short hc =>
      cases hy with
      | short hd =>
          simp only [List.cons_append, List.nil_append, List.cons.injEq, true_and] at h
          exact ⟨congrArg Sum.inl (hshort _ hc _ hd h.1), h.2⟩
      | plain hd => exact absurd (List.cons.inj h).1.symm hd
      | codePoint d =>
          simp only [List.cons_append, List.cons.injEq, true_and] at h
          exact absurd h.1 (hmarks _ hc).1
      | byte b =>
          simp only [List.cons_append, List.cons.injEq, true_and] at h
          exact absurd h.1 (hmarks _ hc).2
  | plain hc =>
      cases hy with
      | plain hd =>
          obtain ⟨hhead, hrest⟩ := List.cons.inj h
          exact ⟨congrArg Sum.inl hhead, hrest⟩
      | short | codePoint | byte => exact absurd (List.cons.inj h).1 hc
  | codePoint c =>
      cases hy with
      | short hd =>
          simp only [List.cons_append, List.cons.injEq, true_and] at h
          exact absurd h.1.symm (hmarks _ hd).1
      | plain hd => exact absurd (List.cons.inj h).1.symm hd
      | codePoint d =>
          simp only [List.cons_append, List.append_assoc, List.nil_append, List.cons.injEq,
            true_and] at h
          have hclosing : ∀ n, '\x7d' ∉ Nat.toDigits 16 n := fun n hmem =>
            of_mem_toDigits (p := (· ≠ '\x7d')) (by decide) hmem rfl
          obtain ⟨hdigits, hrest⟩ := Text.append_cons_inj (hclosing _) (hclosing _) h
          have hc := congrArg hexValue hdigits
          rw [hexValue_toDigits, hexValue_toDigits] at hc
          exact ⟨congrArg Sum.inl (Char.toNat_inj.mp hc), hrest⟩
      | byte b =>
          simp only [List.cons_append, List.cons.injEq, true_and] at h
          exact absurd h.1 (by decide)
  | byte b =>
      cases hy with
      | short hd =>
          simp only [List.cons_append, List.cons.injEq, true_and] at h
          exact absurd h.1.symm (hmarks _ hd).2
      | plain hd => exact absurd (List.cons.inj h).1.symm hd
      | codePoint d =>
          simp only [List.cons_append, List.cons.injEq, true_and] at h
          exact absurd h.1 (by decide)
      | byte b' =>
          simp only [List.cons_append, List.nil_append, List.cons.injEq, true_and] at h
          have hb := b.toNat_lt
          have hb' := b'.toNat_lt
          have hhigh := toUpper_digitChar_inj (by omega) (by omega) h.1
          have hlow := toUpper_digitChar_inj (by omega) (by omega) h.2.1
          exact ⟨congrArg Sum.inr (UInt8.toNat_inj.mp (by omega)), h.2.2⟩

/-- Letters are told by what stands for them. -/
theorem flatMap_shown_injective {xs ys : List Letter} (h : xs.flatMap shown = ys.flatMap shown) :
    xs = ys := by
  have hne : ∀ x, shown x ≠ [] := fun x hnil => by
    have hform := form_shown x
    rw [hnil] at hform
    cases hform
  induction xs generalizing ys with
  | nil =>
      cases ys with
      | nil => rfl
      | cons y ys => exact absurd (List.append_eq_nil_iff.mp h.symm).1 (hne y)
  | cons x xs ih =>
      cases ys with
      | nil => exact absurd (List.append_eq_nil_iff.mp h).1 (hne x)
      | cons y ys =>
          rw [List.flatMap_cons, List.flatMap_cons] at h
          obtain ⟨hxy, hrest⟩ := form_append_inj (form_shown x) (form_shown y) h
          rw [hxy, ih hrest]

/-! ## quoted bytes -/

/-- The letters of a segment. -/
def lettersOf : Utf8.Segment → List Letter
  | .scalar c => [.inl c]
  | .broken bytes => bytes.map .inr

/-- The bytes of a letter. -/
def bytesOf : Letter → Bytes
  | .inl c => String.utf8EncodeChar c
  | .inr b => [b]

theorem flatMap_escapeSegment (segments : List Utf8.Segment) :
    segments.flatMap escapeSegment = (segments.flatMap lettersOf).flatMap shown := by
  have hsegment : escapeSegment = fun segment => (lettersOf segment).flatMap shown := by
    funext segment
    cases segment with
    | scalar c => exact (List.append_nil _).symm
    | broken bytes =>
        rw [lettersOf, List.flatMap_map]
        rfl
  rw [List.flatMap_assoc, hsegment]

theorem flatMap_bytes (segments : List Utf8.Segment) :
    segments.flatMap Utf8.Segment.bytes = (segments.flatMap lettersOf).flatMap bytesOf := by
  have hsegment : Utf8.Segment.bytes = fun segment => (lettersOf segment).flatMap bytesOf := by
    funext segment
    cases segment with
    | scalar c => exact (List.append_nil _).symm
    | broken bytes =>
        rw [lettersOf, List.flatMap_map]
        exact (List.flatMap_singleton' bytes).symm
  rw [List.flatMap_assoc, hsegment]

/-- **Bytes are told by how they are quoted.** -/
theorem quotedBytes_injective {xs ys : Bytes} (h : quotedBytes xs = quotedBytes ys) : xs = ys := by
  rw [quotedBytes, quotedBytes, String.ofList_inj] at h
  have hinside := List.append_cancel_left (List.append_cancel_right h)
  rw [flatMap_escapeSegment, flatMap_escapeSegment] at hinside
  rw [← Utf8.flatMap_bytes_segments xs, ← Utf8.flatMap_bytes_segments ys, flatMap_bytes,
    flatMap_bytes, flatMap_shown_injective hinside]

end Text

/-- **Two paths are never quoted alike.** -/
theorem Path.quoted_injective {p q : Path} (h : p.quoted = q.quoted) : p = q := by
  cases p
  cases q
  exact congrArg Path.mk (Text.quotedBytes_injective h)

end ComponentBrowser
