import ComponentBrowser.Log.Filter
import ComponentBrowser.Proofs.Text.Trim

/-!
# ComponentBrowser.Proofs.Log.Crash

When reading a log filter breaks down.  The reader looks for the parts of a
directive in its text without the white space around it and cuts them out of its
whole text, at places that count bytes.  As long as these places lie between two
characters of the whole text there is something to cut.  They do if no white
space stands in front, for then both texts begin alike, and they do in a text of
ASCII, where every place lies between two characters.

* `Utf8.IsBetween` — a place between two characters;
* `Directive.step_keeps` — reading one character keeps to such places;
* `Directive.scan_ne_crash` — so does reading all of them;
* `Filter.exists_directive_of_crash` — what a filter holds that breaks its reader
  down.
-/

namespace ComponentBrowser

namespace Utf8

/-! ## places between characters -/

theorem length_encode_cons (c : Char) (cs : List Char) :
    (encode (c :: cs)).length = c.utf8Size + (encode cs).length := by
  rw [encode, List.flatMap_cons, List.length_append, String.length_utf8EncodeChar, encode]

theorem length_encode_append (front back : List Char) :
    (encode (front ++ back)).length = (encode front).length + (encode back).length := by
  rw [encode, List.flatMap_append, List.length_append, encode, encode]

theorem drop?_append (front back : List Char) :
    drop? (encode front).length (front ++ back) = some back := by
  induction front with
  | nil => exact drop?.eq_1 back
  | cons c front ih =>
      have hpos := c.utf8Size_pos
      obtain ⟨n, hn⟩ : ∃ n, (encode (c :: front)).length = n + 1 :=
        Nat.exists_eq_succ_of_ne_zero (by rw [length_encode_cons]; omega)
      rw [length_encode_cons] at hn
      have hrest : n + 1 - c.utf8Size = (encode front).length := by omega
      rw [length_encode_cons, hn, List.cons_append, drop?, if_pos (by omega), hrest, ih]

theorem take?_append (front back : List Char) :
    take? (encode front).length (front ++ back) = some front := by
  induction front with
  | nil => exact take?.eq_1 back
  | cons c front ih =>
      have hpos := c.utf8Size_pos
      obtain ⟨n, hn⟩ : ∃ n, (encode (c :: front)).length = n + 1 :=
        Nat.exists_eq_succ_of_ne_zero (by rw [length_encode_cons]; omega)
      rw [length_encode_cons] at hn
      have hrest : n + 1 - c.utf8Size = (encode front).length := by omega
      rw [length_encode_cons, hn, List.cons_append, take?, if_pos (by omega), hrest, ih]
      rfl

/-- A place between two characters of a text, or at one of its ends. -/
def IsBetween (whole : List Char) (n : Nat) : Prop :=
  ∃ front back, whole = front ++ back ∧ (encode front).length = n

theorem utf8Size_of_ascii {c : Char} (h : c.toNat < 0x80) : c.utf8Size = 1 :=
  Char.utf8Size_eq_one_iff.mpr (UInt32.le_iff_toNat_le.mpr (Nat.le_of_lt_succ h))

theorem length_encode_of_ascii {cs : List Char} (h : ∀ c ∈ cs, c.toNat < 0x80) :
    (encode cs).length = cs.length := by
  induction cs with
  | nil => rfl
  | cons c cs ih =>
      obtain ⟨hc, hrest⟩ := List.forall_mem_cons.mp h
      rw [length_encode_cons, ih hrest, utf8Size_of_ascii hc, List.length_cons, Nat.add_comm]

/-- In a text of ASCII each place is one between two characters. -/
theorem isBetween_of_ascii {whole : List Char} (h : ∀ c ∈ whole, c.toNat < 0x80) {n : Nat}
    (hn : n ≤ whole.length) : IsBetween whole n := by
  refine ⟨whole.take n, whole.drop n, (List.take_append_drop n whole).symm, ?_⟩
  rw [length_encode_of_ascii fun c hc => h c (List.mem_of_mem_take hc), List.length_take_of_le hn]

end Utf8

end ComponentBrowser

namespace ComponentBrowser.Log

open Utf8 (IsBetween)

namespace Directive

/-! ## cuts -/

variable {α β : Type} {whole : List Char} {since upTo : Nat}

theorem behind_of_isBetween (h : IsBetween whole since) : ∃ cs, behind whole since = .ok cs := by
  obtain ⟨front, back, rfl, rfl⟩ := h
  exact ⟨back, by rw [behind, Utf8.drop?_append]; rfl⟩

/-- There is something to cut between two places, each between two characters. -/
theorem cut_of_isBetween (hsince : IsBetween whole since) (hupTo : IsBetween whole upTo)
    (hle : since ≤ upTo) : ∃ cs, cut whole since upTo = .ok cs := by
  obtain ⟨front, back, rfl, rfl⟩ := hsince
  obtain ⟨front', back', heq, rfl⟩ := hupTo
  have hfront : ∃ middle, front' = front ++ middle ∧ back = middle ++ back' := by
    rcases List.append_eq_append_iff.mp heq with ⟨middle, hfront, hback⟩ | ⟨middle, hfront, hback⟩
    · exact ⟨middle, hfront, hback⟩
    · -- the first place lies behind the second only if they are the same
      have hnil : middle = [] := by
        cases middle with
        | nil => rfl
        | cons c rest =>
            have hpos := c.utf8Size_pos
            rw [hfront, Utf8.length_encode_append, Utf8.length_encode_cons] at hle
            omega
      subst hnil
      rw [List.append_nil] at hfront
      exact ⟨[], by rw [List.append_nil, hfront], hback.symm⟩
  obtain ⟨middle, rfl, rfl⟩ := hfront
  have hlength : (Utf8.encode (front ++ middle)).length - (Utf8.encode front).length =
      (Utf8.encode middle).length := by
    rw [Utf8.length_encode_append]
    omega
  refine ⟨middle, ?_⟩
  rw [cut, behind, Utf8.drop?_append, hlength]
  change orCrash (Utf8.take? _ (middle ++ back')) = _
  rw [Utf8.take?_append]
  rfl

/-! ## one character -/

variable {d : Directive} {part : Part} {i : Nat} {c : Char}

/-- A part that is being read began at a place between two characters, at or
before the place that the reader has come to. -/
def Part.Holds (whole : List Char) (i : Nat) : Part → Prop
  | .levelOrTarget since | .span since | .field since | .level since =>
    IsBetween whole since ∧ since ≤ i
  | .start | .afterFields | .afterSpan => True

theorem Part.Holds.mono (h : part.Holds whole i) {j : Nat} (hle : i ≤ j) : part.Holds whole j := by
  cases part with
  | levelOrTarget since | span since | field since | level since => exact ⟨h.1, Nat.le_trans h.2 hle⟩
  | start | afterFields | afterSpan => trivial

/-- A reading does not break down, and the part that it goes on with holds. -/
def Keeps (whole : List Char) (i : Nat) (r : Read (Directive × Part)) : Prop :=
  r ≠ .error .crash ∧ ∀ d part, r = .ok (d, part) → part.Holds whole i

theorem keeps_ok (h : part.Holds whole i) : Keeps whole i (.ok (d, part)) := by
  refine ⟨nofun, fun d' part' heq => ?_⟩
  injection heq with heq
  injection heq with hd hpart
  rwa [← hpart]

theorem keeps_refuse (cause : FilterFault) : Keeps whole i (refuse cause) := ⟨nofun, nofun⟩

theorem keeps_map {r : Read Directive} (hr : r ≠ .error .crash) (h : part.Holds whole i) :
    Keeps whole i (r.map (·, part)) := by
  cases r with
  | ok d => exact keeps_ok h
  | error halt =>
      refine ⟨fun heq => hr ?_, nofun⟩
      injection heq with heq
      rw [heq]

section Cuts

variable (hsince : IsBetween whole since) (hupTo : IsBetween whole upTo) (hle : since ≤ upTo)
include hsince hupTo hle

theorem withTarget_ne_crash : d.withTarget whole since upTo ≠ .error .crash := by
  obtain ⟨cs, hcs⟩ := cut_of_isBetween hsince hupTo hle
  rw [withTarget, hcs]
  nofun

theorem withSpan_ne_crash (mayMiss : Bool) :
    d.withSpan whole since upTo mayMiss ≠ .error .crash := by
  obtain ⟨cs, hcs⟩ := cut_of_isBetween hsince hupTo hle
  rw [withSpan, hcs]
  nofun

theorem withField_ne_crash : d.withField whole since upTo ≠ .error .crash := by
  obtain ⟨cs, hcs⟩ := cut_of_isBetween hsince hupTo hle
  rw [withField, hcs]
  change (if cs = [] then _ else _) ≠ _
  split
  · nofun
  · cases FieldMatch.parse cs with
    | ok field => nofun
    | error cause => nofun

end Cuts

/-- **Reading one character keeps to places between characters**, as long as it
stands between two such places itself. -/
theorem step_keeps (hpart : part.Holds whole i) (hi : IsBetween whole i)
    (hnext : IsBetween whole (i + c.utf8Size)) :
    Keeps whole (i + c.utf8Size) (step whole d part i c) := by
  have hle : i ≤ i + c.utf8Size := Nat.le_add_right i c.utf8Size
  have hpos := c.utf8Size_pos
  -- a part that begins behind a delimiter does so at the next place
  have hbehind : ∀ b : Char, b.utf8Size = 1 → c = b → IsBetween whole (i + 1) ∧
      i + 1 ≤ i + c.utf8Size := by
    rintro b hb rfl
    rw [hb] at hnext
    exact ⟨hnext, by omega⟩
  cases part with
  | start =>
      rw [step]
      split
      · exact keeps_ok (hbehind '[' (by decide) ‹_›)
      · split
        · exact keeps_ok ⟨hi, hle⟩
        · exact keeps_refuse _
  | levelOrTarget since =>
      have htarget := withTarget_ne_crash (d := d) hpart.1 hi hpart.2
      rw [step]
      split
      · exact keeps_map htarget (hbehind '=' (by decide) ‹_›)
      · split
        · exact keeps_map htarget (hbehind '[' (by decide) ‹_›)
        · exact keeps_ok (hpart.mono hle)
  | span since =>
      have hspan := withSpan_ne_crash (d := d) hpart.1 hi hpart.2
      rw [step]
      split
      · exact keeps_map (hspan false) trivial
      · split
        · exact keeps_map (hspan true) (hbehind '\x7b' (by decide) ‹_›)
        · exact keeps_ok (hpart.mono hle)
  | field since =>
      rw [step]
      split
      · exact keeps_map (withField_ne_crash hpart.1 hi hpart.2) trivial
      · exact keeps_ok (hpart.mono hle)
  | afterFields =>
      rw [step]
      split
      · exact keeps_ok trivial
      · exact keeps_refuse _
  | afterSpan =>
      rw [step]
      split
      · exact keeps_ok (hbehind '=' (by decide) ‹_›)
      · exact keeps_refuse _
  | level since => exact keeps_ok (hpart.mono hle)

theorem finish_ne_crash (hpart : part.Holds whole i) : finish whole d part ≠ .error .crash := by
  cases part with
  | levelOrTarget since =>
      obtain ⟨cs, hcs⟩ := behind_of_isBetween hpart.1
      rw [finish, hcs]
      nofun
  | level since =>
      obtain ⟨cs, hcs⟩ := behind_of_isBetween hpart.1
      rw [finish, hcs]
      change (limitOf cs).bind _ ≠ _
      rw [limitOf]
      split
      · nofun
      · split
        · nofun
        · nofun
  | afterSpan => nofun
  | start | span | field | afterFields => nofun

/-! ## whole directives -/

/-- **Reading goes through** if each place that it comes to lies between two
characters. -/
theorem scan_ne_crash {rest : List Char} (hpart : part.Holds whole i)
    (hplaces : ∀ front back, rest = front ++ back →
      IsBetween whole (i + (Utf8.encode front).length)) :
    scan whole d part i rest ≠ .error .crash := by
  induction rest generalizing d part i with
  | nil => exact finish_ne_crash hpart
  | cons c rest ih =>
      have hnext : IsBetween whole (i + c.utf8Size) := by
        have hplace := hplaces [c] rest rfl
        rwa [Utf8.length_encode_cons] at hplace
      obtain ⟨hcrash, hholds⟩ := step_keeps hpart (hplaces [] (c :: rest) rfl) hnext
      rw [scan]
      cases hstep : step whole d part i c with
      | error halt =>
          intro heq
          injection heq with heq
          exact hcrash (by rw [hstep, heq])
      | ok p =>
          refine ih (hholds p.1 p.2 hstep) fun front back heq => ?_
          have hplace := hplaces (c :: front) back (by rw [heq]; rfl)
          rwa [Utf8.length_encode_cons, ← Nat.add_assoc] at hplace

theorem parse_ne_crash_of_head {cs : List Char} (h : ∀ c ∈ cs.head?, Text.isBlank c = false) :
    parse cs ≠ .error .crash := by
  obtain ⟨after, hcs, -⟩ := Text.exists_eq_trimEnd_append cs
  refine scan_ne_crash trivial fun front back heq => ?_
  rw [Text.trim, Text.trimStart_eq_self h] at heq
  rw [heq, List.append_assoc] at hcs
  exact ⟨front, back ++ after, hcs, by rw [Nat.zero_add]⟩

theorem parse_ne_crash_of_ascii {cs : List Char} (h : ∀ c ∈ cs, c.toNat < 0x80) :
    parse cs ≠ .error .crash := by
  obtain ⟨before, after, hcs, -, -⟩ := Text.exists_eq_append_trim cs
  refine scan_ne_crash trivial fun front back heq => ?_
  rw [heq] at hcs
  have hfront : ∀ c ∈ front, c.toNat < 0x80 := fun c hc => h c (by rw [hcs]; simp [hc])
  rw [Nat.zero_add, Utf8.length_encode_of_ascii hfront]
  refine Utf8.isBetween_of_ascii h ?_
  rw [hcs]
  simp only [List.length_append]
  omega

/-- Only white space in front of a directive can move the places within
characters, and only within such as take several bytes. -/
theorem of_parse_eq_crash {cs : List Char} (h : parse cs = .error .crash) :
    (∃ c ∈ cs.head?, Text.isBlank c = true) ∧ ∃ c ∈ cs, 0x80 ≤ c.toNat := by
  constructor
  · refine Classical.byContradiction fun hhead => parse_ne_crash_of_head (fun c hc => ?_) h
    exact Bool.eq_false_iff.mpr fun hblank => hhead ⟨c, hc, hblank⟩
  · refine Classical.byContradiction fun hwide => parse_ne_crash_of_ascii (fun c hc => ?_) h
    exact Nat.lt_of_not_le fun hle => hwide ⟨c, hc, hle⟩

end Directive

namespace Filter

theorem exists_mem_of_mapM_eq_error {α β ε : Type} {f : α → Except ε β} {xs : List α} {e : ε}
    (h : xs.mapM f = .error e) : ∃ x ∈ xs, f x = .error e := by
  induction xs with
  | nil => contradiction
  | cons x xs ih =>
      rw [List.mapM_cons] at h
      cases hx : f x with
      | error e' =>
          rw [hx] at h
          injection h with h
          exact ⟨x, List.mem_cons_self, by rw [hx, h]⟩
      | ok y =>
          rw [hx] at h
          cases hxs : xs.mapM f with
          | ok ys =>
              rw [hxs] at h
              contradiction
          | error e' =>
              rw [hxs] at h
              injection h with h
              obtain ⟨x', hmem, hx'⟩ := ih (by rw [hxs, h])
              exact ⟨x', List.mem_cons_of_mem x hmem, hx'⟩

/-- **What breaks the reader of a filter down**: a directive with white space in
front and a character beyond ASCII in it. -/
theorem exists_directive_of_crash {s : String} (h : parse s = .error .crash) :
    ∃ cs ∈ split s.toList, (∃ c ∈ cs.head?, Text.isBlank c = true) ∧ ∃ c ∈ cs, 0x80 ≤ c.toNat := by
  rw [parse] at h
  cases hread : ((split s.toList).filter (· ≠ [])).mapM Directive.parse with
  | ok ds =>
      rw [hread] at h
      contradiction
  | error halt =>
      rw [hread] at h
      injection h with h
      rw [h] at hread
      obtain ⟨cs, hcs, hcrash⟩ := exists_mem_of_mapM_eq_error hread
      exact ⟨cs, (List.mem_filter.mp hcs).1, Directive.of_parse_eq_crash hcrash⟩

end Filter
end ComponentBrowser.Log
