import ComponentBrowser.Text.Grouped

/-!
# ComponentBrowser.Proofs.Text.Grouped

A grouped number is the decimal notation with commas put in, and nothing is
lost by them.

* `Decimal.digits_eq_toDigits`, `Decimal.head?_digits` — the digits are those of
  the standard notation, and only zero begins with a zero;
* `exists_groups` — the groups, and how long they are;
* `digits_around_comma` — every comma stands between two digits;
* `filter_digits`, `digits_injective` — without the commas it is the decimal
  notation, so it tells the number;
* `digits_append_blank_inj` — it ends where the blank behind it stands;
* `render_thousands` — all of this of the text that is shown.
-/

namespace ComponentBrowser

/-! ## where a piece of text ends -/

/-- Equal texts fall into the same two pieces at a character that does not occur
in either first piece. -/
theorem Text.append_cons_inj {x : Char} {as bs cs ds : List Char} (ha : x ∉ as) (hb : x ∉ bs)
    (h : as ++ x :: cs = bs ++ x :: ds) : as = bs ∧ cs = ds := by
  induction as generalizing bs with
  | nil =>
      cases bs with
      | nil => exact ⟨rfl, (List.cons.inj h).2⟩
      | cons b bs => exact absurd ((List.cons.inj h).1 ▸ List.mem_cons_self) hb
  | cons a as ih =>
      cases bs with
      | nil => exact absurd ((List.cons.inj h).1 ▸ List.mem_cons_self) ha
      | cons b bs =>
          obtain ⟨rfl, hrest⟩ := List.cons.inj h
          obtain ⟨rfl, rfl⟩ := ih (List.not_mem_of_not_mem_cons ha)
            (List.not_mem_of_not_mem_cons hb) hrest
          exact ⟨rfl, rfl⟩

/-- The same at a character that occurs in neither second piece. -/
theorem Text.append_cons_inj_right {x : Char} {as bs cs ds : List Char} (hc : x ∉ cs)
    (hd : x ∉ ds) (h : as ++ x :: cs = bs ++ x :: ds) : as = bs ∧ cs = ds := by
  have hreverse : cs.reverse ++ x :: as.reverse = ds.reverse ++ x :: bs.reverse := by
    simpa using congrArg List.reverse h
  obtain ⟨hback, hfront⟩ := Text.append_cons_inj (mt List.mem_reverse.mp hc)
    (mt List.mem_reverse.mp hd) hreverse
  exact ⟨List.reverse_inj.mp hfront, List.reverse_inj.mp hback⟩

/-! ## decimal digits -/

namespace Decimal

theorem digitChar_eq (n : Nat) : digitChar n = (n % 10).digitChar := by
  rw [← Char.toNat_inj, toNat_digitChar, Nat.toNat_digitChar_of_lt_ten (Nat.mod_lt n (by decide))]

/-- The digits are those of the standard notation. -/
theorem digits_eq_toDigits (n : Nat) : digits n = Nat.toDigits 10 n := by
  fun_induction digits n with
  | case1 n h =>
      rw [Nat.toDigits_eq_if (by decide), if_pos h, digitChar_eq, Nat.mod_eq_of_lt h]
  | case2 n h ih => rw [Nat.toDigits_eq_if (by decide), if_neg h, ih, digitChar_eq]

/-- No number but zero begins with a zero. -/
theorem head?_digits (n : Nat) : (digits n).head? = some '0' ↔ n = 0 := by
  fun_induction digits n with
  | case1 n h =>
      rw [List.head?_cons, Option.some.injEq, ← Char.toNat_inj, toNat_digitChar]
      change 48 + n % 10 = 48 ↔ n = 0
      omega
  | case2 n h ih =>
      rw [List.head?_append, Option.or_of_isSome (by simp [digits_ne_nil]), ih]
      omega

theorem ne_comma_of_mem_digits {n : Nat} {c : Char} (h : c ∈ digits n) : c ≠ ',' := by
  rintro rfl
  exact absurd (isDigit_of_mem_digits n ',' h) (by decide)

end Decimal

namespace Grouped

open Decimal (isDigit)

/-! ## groups -/

/-- A text is groups of digits with commas between them: the first group has
one to three digits, every later one has three. -/
structure Groups (text first : List Char) (later : List (List Char)) : Prop where
  eq_intercalate : text = [','].intercalate (first :: later)
  length_first : 1 ≤ first.length ∧ first.length ≤ 3
  length_later : ∀ group ∈ later, group.length = 3
  isDigit : ∀ group ∈ first :: later, ∀ c ∈ group, isDigit c = true

variable {text first : List Char} {later : List (List Char)} {d : Char}

theorem groups_singleton (hd : isDigit d = true) : Groups [d] [d] [] where
  eq_intercalate := List.intercalate_singleton.symm
  length_first := by simp
  length_later _ hgroup := nomatch hgroup
  isDigit := by simpa using hd

/-- A digit before a first group that is not full belongs to it. -/
theorem Groups.extend (h : Groups text first later) (hd : Decimal.isDigit d = true)
    (hfirst : first.length < 3) : Groups (d :: text) (d :: first) later where
  eq_intercalate := by
    rw [h.eq_intercalate]
    cases later with
    | nil => rw [List.intercalate_singleton, List.intercalate_singleton]
    | cons group later => rw [List.intercalate_cons_cons, List.intercalate_cons_cons]; rfl
  length_first := ⟨Nat.succ_pos _, hfirst⟩
  length_later := h.length_later
  isDigit := by
    obtain ⟨hinFirst, hinLater⟩ := List.forall_mem_cons.mp h.isDigit
    exact List.forall_mem_cons.mpr ⟨List.forall_mem_cons.mpr ⟨hd, hinFirst⟩, hinLater⟩

/-- A digit before a full group begins one, and a comma stands between. -/
theorem Groups.begin (h : Groups text first later) (hd : Decimal.isDigit d = true)
    (hfirst : first.length = 3) : Groups (d :: ',' :: text) [d] (first :: later) where
  eq_intercalate := by
    rw [h.eq_intercalate, List.intercalate_cons_cons]
    rfl
  length_first := by simp
  length_later := List.forall_mem_cons.mpr ⟨hfirst, h.length_later⟩
  isDigit := List.forall_mem_cons.mpr ⟨by simpa using hd, h.isDigit⟩

/-- The groups of a notation.  The commas are placed by the number of digits
behind them, so the induction carries how many there are. -/
theorem exists_groups {ds : List Char} (hne : ds ≠ []) (hdigits : ∀ c ∈ ds, isDigit c = true) :
    ∃ first later, Groups (insertCommas ds) first later ∧
      ds.length = first.length + 3 * later.length := by
  induction ds with
  | nil => contradiction
  | cons d ds ih =>
      obtain ⟨hd, hrest⟩ := List.forall_mem_cons.mp hdigits
      by_cases hlast : ds = []
      · subst hlast
        exact ⟨[d], [], groups_singleton hd, rfl⟩
      · obtain ⟨first, later, hgroups, hlength⟩ := ih hlast hrest
        obtain ⟨hleast, hmost⟩ := hgroups.length_first
        rw [insertCommas]
        split
        · next hfull =>
            refine ⟨[d], first :: later, hgroups.begin hd (by omega), ?_⟩
            simp only [List.length_cons, List.length_nil]
            omega
        · next hpart =>
            have hroom : ds.length % 3 ≠ 0 := fun hzero => hpart ⟨hlast, hzero⟩
            refine ⟨d :: first, later, hgroups.extend hd (by omega), ?_⟩
            simp only [List.length_cons]
            omega

/-! ## commas -/

theorem insertCommas_cons (d : Char) (ds : List Char) :
    insertCommas (d :: ds) = d ::
      if ds ≠ [] ∧ ds.length % 3 = 0 then ',' :: insertCommas ds else insertCommas ds := by
  rw [insertCommas]
  split <;> rfl

theorem head?_insertCommas (ds : List Char) : (insertCommas ds).head? = ds.head? := by
  cases ds with
  | nil => rfl
  | cons d ds => rw [insertCommas_cons]; rfl

/-- Every comma stands between two digits: none leads, none trails, and no two
stand together. -/
theorem digits_around_comma {ds before after : List Char}
    (hdigits : ∀ c ∈ ds, isDigit c = true) (h : insertCommas ds = before ++ ',' :: after) :
    (∃ c ∈ before.getLast?, isDigit c = true) ∧ ∃ c ∈ after.head?, isDigit c = true := by
  induction ds generalizing before with
  | nil => simp [insertCommas] at h
  | cons d ds ih =>
      obtain ⟨hd, hrest⟩ := List.forall_mem_cons.mp hdigits
      -- a comma further back keeps its neighbours when something is put before them
      have further (front : List Char) {back : List Char} (hback : insertCommas ds = back ++ ',' :: after) :
          (∃ c ∈ (front ++ back).getLast?, isDigit c = true) ∧
            ∃ c ∈ after.head?, isDigit c = true := by
        obtain ⟨⟨c, hc, hdigit⟩, hafter⟩ := ih hrest hback
        exact ⟨⟨c, by rw [List.getLast?_append, hc]; rfl, hdigit⟩, hafter⟩
      rw [insertCommas_cons] at h
      rcases List.cons_eq_append_iff.mp h with ⟨-, hcomma⟩ | ⟨back, rfl, hback⟩
      · rw [← (List.cons.inj hcomma).1] at hd
        exact absurd hd (by decide)
      · split at hback
        · next hfull =>
            rcases List.cons_eq_append_iff.mp hback with ⟨rfl, hafter⟩ | ⟨back, rfl, hfar⟩
            · obtain ⟨c, rest, rfl⟩ := List.exists_cons_of_ne_nil hfull.1
              refine ⟨⟨d, rfl, hd⟩, c, ?_, hrest c List.mem_cons_self⟩
              rw [(List.cons.inj hafter).2, head?_insertCommas]
              rfl
            · exact further [d, ','] hfar
        · exact further [d] hback

/-! ## numbers -/

/-- Without its commas a grouped number is the decimal notation. -/
theorem filter_digits (n : Nat) : (digits n).filter (· ≠ ',') = Decimal.digits n :=
  filter_insertCommas (Decimal.digits n) fun _ => Decimal.ne_comma_of_mem_digits

@[simp] theorem value_digits (n : Nat) : value (digits n) = n := by
  rw [value, filter_digits, Decimal.value_digits]

theorem digits_injective : Function.Injective digits := by
  intro m n h
  rw [← value_digits m, h, value_digits]

theorem blank_not_mem_digits (n : Nat) : ' ' ∉ digits n := by
  intro h
  have hmem : ' ' ∈ (digits n).filter (· ≠ ',') := List.mem_filter.mpr ⟨h, by decide⟩
  rw [filter_digits] at hmem
  exact absurd (Decimal.isDigit_of_mem_digits n ' ' hmem) (by decide)

/-- A grouped number ends where the blank behind it stands. -/
theorem digits_append_blank_inj {m n : Nat} {xs ys : List Char}
    (h : digits m ++ ' ' :: xs = digits n ++ ' ' :: ys) : m = n ∧ xs = ys := by
  obtain ⟨hdigits, hrest⟩ :=
    Text.append_cons_inj (blank_not_mem_digits m) (blank_not_mem_digits n) h
  exact ⟨digits_injective hdigits, hrest⟩

/-- **Grouping by thousands is faithful.**  A number is written in groups of
digits, one to three and then three in each, with single commas between them and
no leading zero; without the commas it is the decimal notation, so it reads
back, and no other number is written like it. -/
theorem render_thousands (n : Nat) :
    (∃ first later, Groups (render n).toList first later) ∧
    (∀ before after, (render n).toList = before ++ ',' :: after →
      (∃ c ∈ before.getLast?, isDigit c = true) ∧ ∃ c ∈ after.head?, isDigit c = true) ∧
    ((render n).toList.head? = some '0' ↔ n = 0) ∧
    (render n).toList.filter (· ≠ ',') = Nat.toDigits 10 n ∧
    value (render n).toList = n ∧
    ∀ m, render m = render n → m = n := by
  have hdigits := Decimal.isDigit_of_mem_digits n
  rw [render, String.toList_ofList]
  refine ⟨?_, fun before after h => digits_around_comma hdigits h, ?_, ?_, value_digits n,
    fun m h => digits_injective (String.ofList_injective h)⟩
  · obtain ⟨first, later, hgroups, -⟩ := exists_groups (Decimal.digits_ne_nil n) hdigits
    exact ⟨first, later, hgroups⟩
  · rw [digits, head?_insertCommas, Decimal.head?_digits]
  · rw [filter_digits, Decimal.digits_eq_toDigits]

end Grouped

end ComponentBrowser
