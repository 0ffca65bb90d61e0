import ComponentBrowser.Pattern.Program
import ComponentBrowser.Pattern.Reader
import Mathlib.Data.Finset.Card
import Mathlib.Data.Finset.SDiff

/-!
# ComponentBrowser.Proofs.Pattern.Progress

Reading a pattern goes on and so does following its program, so that the loops of
both have as many rounds as they need.

A reader takes a character at least with each thing that it reads, as `Leaves`
says of the parts of a pattern in the order of their definitions.  A program
leads to two places at most from one that it has not been at, and is at no place
twice.

* `isSome_loop?_dashRound`, `Bracket.isSome_loop?_round` and
  `Reader.isSome_loop?_round` — the dashes that begin a bracket, brackets and
  patterns are read to their ends;
* `Program.loop?_round` — places are followed up as far as that goes.
-/

namespace ComponentBrowser.Pattern

/-! ## what is left -/

section Leaves

variable {α β : Type} {size : α → Nat} {size' : β → Nat} {m n : Nat} {r : Option α}

/-- A reading leaves less than `n`, if it succeeds. -/
def Leaves (size : α → Nat) (n : Nat) (r : Option α) : Prop := ∀ x, r = some x → size x < n

theorem leaves_some {x : α} (h : size x < n) : Leaves size n (some x) := by
  intro y hy
  injection hy with hy
  rw [← hy]
  exact h

theorem leaves_none : Leaves size n none := by
  intro y hy
  contradiction

theorem Leaves.mono (h : Leaves size m r) (hle : m ≤ n) : Leaves size n r :=
  fun x hx => Nat.lt_of_lt_of_le (h x hx) hle

theorem leaves_bind {f : α → Option β} (h : ∀ x, r = some x → Leaves size' n (f x)) :
    Leaves size' n (r.bind f) := by
  cases r with
  | none => exact leaves_none
  | some x => exact h x rfl

theorem Leaves.bind (h : Leaves size m r) {f : α → Option β}
    (hf : ∀ x, size x < m → Leaves size' n (f x)) : Leaves size' n (r.bind f) :=
  leaves_bind fun x hx => hf x (h x hx)

theorem leaves_map {f : α → β} (h : ∀ x, r = some x → size' (f x) < n) :
    Leaves size' n (r.map f) := by
  cases r with
  | none => exact leaves_none
  | some x => exact leaves_some (h x rfl)

theorem leaves_ite {p : Prop} [Decidable p] {r' : Option α} (h : p → Leaves size n r)
    (h' : ¬p → Leaves size n r') : Leaves size n (if p then r else r') := by
  split
  · next hp => exact h hp
  · next hp => exact h' hp

/-- A loop whose rounds leave less and less, and whose result leaves no more. -/
theorem leaves_loop? {σ : Type} {round : σ → Round σ (Option α)} {left : σ → Nat}
    (hlt : ∀ s s', round s = .again s' → left s' < left s)
    (hdone : ∀ s x, round s = .done (some x) → size x ≤ left s) {s : σ} (hs : left s < n)
    (fuel : Nat) : Leaves size n (loop? round fuel s).join := by
  intro x hx
  have hagain (s s' : σ) (hs : left s < n) (h : round s = .again s') : left s' < n :=
    Nat.lt_trans (hlt s s' h) hs
  have hafter (s : σ) (r : Option α) (hs : left s < n) (h : round s = .done r) :
      Leaves size n r :=
    fun x hx => Nat.lt_of_le_of_lt (hdone s x (hx ▸ h)) hs
  exact of_loop?_eq_some hagain hafter hs (Option.join_eq_some_iff.mp hx) x rfl

/-- How many characters a reading leaves behind it. -/
def leftBehind (read : α × List Char) : Nat := read.2.length

end Leaves

/-! ## what is passed over -/

theorem length_skipSpaced_le (inComment : Bool) (cs : List Char) :
    (skipSpaced inComment cs).length ≤ cs.length := by
  induction cs generalizing inComment with
  | nil => exact Nat.le_refl 0
  | cons c rest ih =>
      rw [skipSpaced]
      split
      · exact Nat.le_trans (ih _) (Nat.le_succ _)
      · split
        · exact Nat.le_trans (ih _) (Nat.le_succ _)
        · split
          · exact Nat.le_trans (ih _) (Nat.le_succ _)
          · exact Nat.le_refl _

theorem Options.length_skip_le (o : Options) (cs : List Char) :
    (o.skip cs).length ≤ cs.length := by
  rw [skip]
  split
  · exact length_skipSpaced_le false cs
  · exact Nat.le_refl _

theorem Options.leaves_read? (o : Options) (seen cs : List Char) :
    Leaves (·.rest.length) cs.length (read? o seen cs) := by
  induction cs generalizing o seen with
  | nil => exact leaves_none
  | cons c rest ih =>
      have hrest (o : Options) (seen : List Char) :
          Leaves (·.rest.length) (c :: rest).length (read? o seen rest) :=
        (ih o seen).mono (Nat.le_succ _)
      rw [read?]
      refine leaves_ite (fun _ => ?_) fun _ => ?_
      · exact leaves_ite (fun _ => leaves_none) fun _ => leaves_some (Nat.lt_succ_self _)
      · refine leaves_ite (fun _ => leaves_none) fun _ => ?_
        exact leaves_ite (fun _ => hrest _ _) fun _ => leaves_bind fun _ _ => hrest _ _

/-! ## behind a backslash -/

namespace Atom

theorem leaves_hexadecimal? (o : Options) (n count : Nat) (cs : List Char) :
    Leaves leftBehind (cs.length + 1) (hexadecimal? o n count cs) := by
  induction count generalizing n cs with
  | zero => exact leaves_some (Nat.lt_succ_self _)
  | succ count ih =>
      have hskip := o.length_skip_le cs
      rw [hexadecimal?]
      split
      · exact leaves_none
      · next c rest hcs =>
          rw [hcs] at hskip
          exact leaves_bind fun _ _ => (ih _ rest).mono (Nat.le_succ_of_le hskip)

theorem leaves_byNumber? (o : Options) (count : Nat) (rest : List Char) :
    Leaves leftBehind (rest.length + 1) (byNumber? o count rest) :=
  (leaves_hexadecimal? o 0 count rest).bind fun ⟨_, _⟩ hleft =>
    leaves_bind fun _ _ => leaves_some hleft

theorem leaves_read? (o : Options) (cs : List Char) :
    Leaves leftBehind cs.length (read? o cs) := by
  cases cs with
  | nil => exact leaves_none
  | cons c rest =>
      dsimp only [read?]
      split
      · exact leaves_byNumber? o 2 rest
      · exact leaves_byNumber? o 4 rest
      · exact leaves_byNumber? o 8 rest
      · refine leaves_ite (fun _ => leaves_some (Nat.lt_succ_self _)) fun _ => ?_
        exact leaves_map fun _ _ => Nat.lt_succ_self _

end Atom

/-! ## brackets -/

namespace Bracket

variable {r r' : Reader}

theorem leaves_atom? (o : Options) (cs : List Char) :
    Leaves leftBehind cs.length (atom? o cs) := by
  cases cs with
  | nil => exact leaves_none
  | cons c rest =>
      rw [atom?]
      refine leaves_ite (fun _ => ?_) fun _ => leaves_some (Nat.lt_succ_self _)
      exact (Atom.leaves_read? o rest).mono (Nat.le_succ _)

theorem leaves_skipTo? (o : Options) (cs : List Char) :
    Leaves List.length (cs.length + 1) (skipTo? o cs) :=
  leaves_ite (fun _ => leaves_none) fun _ => leaves_some (Nat.lt_succ_of_le (o.length_skip_le cs))

theorem leaves_readItem? (o : Options) (cs : List Char) :
    Leaves leftBehind cs.length (readItem? o cs) := by
  refine (leaves_atom? o cs).bind fun ⟨low, rest⟩ hlow => ?_
  refine (leaves_skipTo? o rest).bind fun rest' hskip => ?_
  have hrest : rest'.length < cs.length := Nat.lt_of_le_of_lt (Nat.le_of_lt_succ hskip) hlow
  dsimp only
  refine leaves_ite (fun _ => leaves_bind fun _ _ => leaves_some hrest) fun _ => ?_
  refine (leaves_skipTo? o (rest'.drop 1)).bind fun behind hbehind => ?_
  refine (leaves_atom? o behind).bind fun ⟨high, rest''⟩ hhigh => ?_
  refine leaves_bind fun _ _ => leaves_some ?_
  rw [List.length_drop] at hbehind
  change rest''.length < behind.length at hhigh
  change rest''.length < cs.length
  omega

theorem leaves_readNamed? (cs : List Char) :
    Leaves (·.2.2.length) cs.length (readNamed? cs) := by
  unfold readNamed?
  split
  · next rest =>
      dsimp only
      generalize hname : (if (rest.head? == some '^') = true then rest.drop 1 else rest) = name
      have hle : name.length ≤ rest.length := by
        rw [← hname]
        split
        · exact List.length_drop ▸ Nat.sub_le _ 1
        · exact Nat.le_refl _
      have hbehind := (List.dropWhile_suffix (· != ':') (l := name)).length_le
      split
      · next behind heq =>
          rw [heq] at hbehind
          refine leaves_map fun _ _ => ?_
          simp only [List.length_cons] at hbehind ⊢
          omega
      · exact leaves_none
  · exact leaves_none

theorem leaves_openingChar? (o : Options) (c : Char) (items : List NestedSet) (rest : List Char) :
    Leaves leftBehind (rest.length + 1) (openingChar? o c items rest) :=
  leaves_bind fun _ _ => (leaves_skipTo? o rest).bind fun _ hrest => leaves_some hrest

/-- A dash at the beginning of a bracket is taken. -/
theorem leftBehind_dashRound_lt {o : Options} {state state' : List NestedSet × List Char}
    (h : dashRound o state = .again state') : leftBehind state' < leftBehind state := by
  rw [dashRound] at h
  split at h
  · next hdash =>
      have hread := leaves_openingChar? o '-' _ _ state' (Round.ofOption_eq_again_iff.mp h)
      have hpos : 0 < state.2.length := by
        cases hcs : state.2 with
        | nil =>
            rw [hcs] at hdash
            contradiction
        | cons c rest => exact Nat.succ_pos _
      rw [List.length_drop] at hread
      change leftBehind state' < state.2.length
      omega
  · contradiction

/-- **The dashes** that begin a bracket are read to their end. -/
theorem isSome_loop?_dashRound (o : Options) (cs : List Char) :
    (loop? (dashRound o) (cs.length + 1) ([], cs)).isSome = true :=
  isSome_loop? (fun _ _ => leftBehind_dashRound_lt) (Nat.lt_succ_self cs.length)

theorem leaves_openingDashes? (o : Options) (cs : List Char) :
    Leaves leftBehind (cs.length + 1) (openingDashes? o cs) := by
  refine leaves_loop? (fun _ _ => leftBehind_dashRound_lt) (fun state read h => ?_)
    (Nat.lt_succ_self cs.length) _
  rw [dashRound] at h
  split at h
  · have hnone := (Round.ofOption_eq_done_iff.mp h).2
    contradiction
  · injection h with h
    injection h with h
    rw [h]

/-- How many characters are left to a reader. -/
def Reader.left (r : Reader) : Nat := r.rest.length

theorem leaves_caret? (o : Options) (cs : List Char) :
    Leaves leftBehind (cs.length + 1) (caret? o cs) := by
  refine leaves_ite (fun _ => leaves_map fun rest hrest => ?_) fun _ =>
    leaves_some (Nat.lt_succ_self _)
  have hskip := leaves_skipTo? o (cs.drop 1) rest hrest
  rw [List.length_drop] at hskip
  change rest.length < cs.length + 1
  omega

theorem leaves_openingBracket? (o : Options) (items : List NestedSet) (cs : List Char) :
    Leaves leftBehind (cs.length + 1) (openingBracket? o items cs) := by
  refine leaves_ite (fun _ => ?_) fun _ => leaves_some (Nat.lt_succ_self _)
  refine (leaves_openingChar? o ']' items (cs.drop 1)).mono ?_
  rw [List.length_drop]
  omega

theorem leaves_open? (o : Options) (r : Reader) (rest : List Char) :
    Leaves Reader.left (rest.length + 1) (open? o r rest) := by
  refine (leaves_skipTo? o rest).bind fun rest₁ h₁ => ?_
  refine (leaves_caret? o rest₁).bind fun ⟨isNegated, rest₂⟩ h₂ => ?_
  refine (leaves_openingDashes? o rest₂).bind fun ⟨items, rest₃⟩ h₃ => ?_
  refine (leaves_openingBracket? o items rest₃).bind fun ⟨items', rest₄⟩ h₄ => leaves_some ?_
  simp only [leftBehind] at h₂ h₃ h₄
  change rest₄.length < rest.length + 1
  omega

theorem leaves_close? (o : Options) (r : Reader) (rest : List Char) :
    Leaves Reader.left (rest.length + 1) (close? o r rest) := by
  rw [close?]
  split
  · exact leaves_bind fun _ _ => leaves_some (Nat.lt_succ_self _)
  · exact leaves_none

theorem two_le_length_of_operator? {cs : List Char} {op : NestedSet.Operator}
    (h : operator? cs = some op) : 2 ≤ cs.length := by
  unfold operator? at h
  split at h
  · exact Nat.le_add_left 2 _
  · contradiction

/-- **A step takes a character.** -/
theorem leaves_step? (o : Options) (r : Reader) : Leaves Reader.left r.rest.length (step? o r) := by
  have hskip := o.length_skip_le r.rest
  rw [step?]
  generalize o.skip r.rest = cs at hskip
  dsimp only
  split
  · next cs _ _ op hop =>
      have htwo := two_le_length_of_operator? hop
      refine leaves_some ?_
      have hleft : (operate o r op (cs.drop 2)).left = cs.length - 2 := List.length_drop
      omega
  · next rest _ =>
      split
      · next hread =>
          have hnamed := leaves_readNamed? rest _ hread
          refine leaves_bind fun _ _ => leaves_some ?_
          exact Nat.lt_of_lt_of_le hnamed (Nat.le_of_succ_le hskip)
      · exact (leaves_open? o r rest).mono hskip
  · exact (leaves_close? o r _).mono hskip
  · next cs _ _ _ _ _ =>
    refine (leaves_readItem? o cs).bind fun ⟨item, rest⟩ hread => leaves_some ?_
    exact Nat.lt_of_lt_of_le hread hskip

/-- **A round makes the rest shorter.** -/
theorem left_round_lt {o : Options} (h : round o r = .again r') : r'.left < r.left := by
  unfold round at h
  split at h
  · contradiction
  · exact leaves_step? o r r' (Round.ofOption_eq_again_iff.mp h)

/-- **Brackets** are read to the end of the outermost. -/
theorem isSome_loop?_round (o : Options) (r : Reader) :
    (loop? (round o) (r.rest.length + 1) r).isSome = true :=
  isSome_loop? (fun _ _ => left_round_lt) (Nat.lt_succ_self r.left)

theorem leaves_finish? (o : Options) (r : Reader) :
    Leaves leftBehind (r.rest.length + 1) (finish? o r) := by
  refine leaves_loop? (fun _ _ => left_round_lt) (fun s read h => ?_) (Nat.lt_succ_self r.left) _
  unfold round at h
  split at h
  · injection h with h
    injection h with h
    rw [← h]
    exact Nat.le_refl s.left
  · have hnone := (Round.ofOption_eq_done_iff.mp h).2
    contradiction

theorem leaves_read? (o : Options) (rest : List Char) :
    Leaves leftBehind (rest.length + 1) (read? o rest) :=
  (leaves_open? o ⟨[], [], []⟩ rest).bind fun r h => (leaves_finish? o r).mono h

end Bracket

/-! ## patterns -/

namespace Reader

variable {r r' : Reader}

/-- How many characters are left to a reader. -/
def left (r : Reader) : Nat := r.rest.length

theorem leaves_atom? (r : Reader) (a : Atom) (rest : List Char) :
    Leaves left (rest.length + 1) (r.atom? a rest) := by
  cases a with
  | char c isByte => exact leaves_map fun _ _ => Nat.lt_succ_self _
  | named s isNegated =>
      exact leaves_ite (fun _ => leaves_none) fun _ => leaves_some (Nat.lt_succ_self _)
  | look l => exact leaves_some (Nat.lt_succ_self _)

theorem leaves_repeat? (r : Reader) (again : Bool → Pattern → Pattern) (rest : List Char) :
    Leaves left (rest.length + 1) (r.repeat? again rest) := by
  rw [repeat?]
  split
  · refine leaves_ite (fun _ => leaves_some ?_) fun _ => leaves_none
    refine Nat.lt_succ_of_le ?_
    dsimp only [left]
    split
    · exact List.length_drop ▸ Nat.sub_le _ 1
    · exact Nat.le_refl _
  · exact leaves_none

theorem leaves_readName? (seen cs : List Char) :
    Leaves leftBehind cs.length (readName? seen cs) := by
  induction cs generalizing seen with
  | nil => exact leaves_none
  | cons c rest ih =>
      rw [readName?]
      refine leaves_ite (fun _ => ?_) fun _ => ?_
      · exact leaves_ite (fun _ => leaves_none) fun _ => leaves_some (Nat.lt_succ_self _)
      · exact leaves_ite (fun _ => (ih _).mono (Nat.le_succ _)) fun _ => leaves_none

theorem leaves_openNamed? (r : Reader) (rest : List Char) :
    Leaves left rest.length (r.openNamed? rest) :=
  (leaves_readName? [] rest).bind fun ⟨_, _⟩ hname =>
    leaves_ite (fun _ => leaves_none) fun _ => leaves_some hname

theorem leaves_openWithOptions? (r : Reader) (rest : List Char) :
    Leaves left rest.length (r.openWithOptions? rest) := by
  refine (r.options.leaves_read? [] rest).bind fun read hread => ?_
  refine leaves_ite (fun _ => ?_) fun _ => leaves_some hread
  exact leaves_ite (fun _ => leaves_none) fun _ => leaves_some hread

theorem leaves_group? (r : Reader) (rest : List Char) :
    Leaves left (rest.length + 1) (r.group? rest) := by
  have hskip := r.options.length_skip_le rest
  rw [group?]
  generalize r.options.skip rest = cs at hskip
  split
  · exact leaves_none
  · exact leaves_none
  · exact leaves_none
  · exact leaves_none
  · refine (r.leaves_openNamed? _).mono ?_
    exact Nat.le_trans (Nat.le_add_right _ 4) (Nat.succ_le_succ hskip)
  · refine (r.leaves_openNamed? _).mono ?_
    exact Nat.le_trans (Nat.le_add_right _ 3) (Nat.succ_le_succ hskip)
  · refine (r.leaves_openWithOptions? _).mono ?_
    exact Nat.le_trans (Nat.le_add_right _ 2) (Nat.succ_le_succ hskip)
  · exact leaves_some (Nat.lt_succ_of_le hskip)

theorem leaves_close? (r : Reader) (rest : List Char) :
    Leaves left (rest.length + 1) (r.close? rest) := by
  rw [close?]
  split
  · exact leaves_some (Nat.lt_succ_self _)
  · exact leaves_none

/-- **A step takes a character.** -/
theorem leaves_step? (r : Reader) (cs : List Char) : Leaves left cs.length (r.step? cs) := by
  cases cs with
  | nil => exact leaves_none
  | cons c rest =>
      dsimp only [step?]
      split
      · exact r.leaves_group? rest
      · exact r.leaves_close? rest
      · exact leaves_some (Nat.lt_succ_self _)
      · exact leaves_map fun ⟨_, _⟩ hread => Bracket.leaves_read? r.options rest _ hread
      · exact r.leaves_repeat? _ rest
      · exact r.leaves_repeat? _ rest
      · exact r.leaves_repeat? _ rest
      · exact leaves_none
      · refine (Atom.leaves_read? r.options rest).bind fun ⟨a, rest'⟩ hread => ?_
        exact (r.leaves_atom? a rest').mono (Nat.le_succ_of_le hread)
      · exact leaves_map fun _ _ => Nat.lt_succ_self _
      · exact r.leaves_atom? _ rest
      · exact r.leaves_atom? _ rest
      · exact r.leaves_atom? _ rest

/-- **A round makes the rest shorter.** -/
theorem left_round_lt (h : r.round = .again r') : r'.left < r.left := by
  rw [round] at h
  split at h
  · contradiction
  · have hstep := r.leaves_step? _ r' (Round.ofOption_eq_again_iff.mp h)
    exact Nat.lt_of_lt_of_le hstep (r.options.length_skip_le r.rest)

/-- **A pattern** is read to its end. -/
theorem isSome_loop?_round (r : Reader) : (loop? round (r.rest.length + 1) r).isSome = true :=
  isSome_loop? (fun _ _ => left_round_lt) (Nat.lt_succ_self r.left)

end Reader

/-! ## programs -/

namespace Program

variable {g : Program} {holds : Look → Bool} {t t' : Trail}

/-- How many places there are left to go to: each that has not been followed up
can lead to two. -/
def Trail.left (g : Program) (t : Trail) : Nat :=
  t.rest.length + 2 * (Finset.range g.size \ t.seen.toFinset).card

theorem Trail.left_mk (g : Program) (seen rest : List Nat) :
    left g ⟨seen, rest⟩ = rest.length + 2 * (Finset.range g.size \ seen.toFinset).card := rfl

theorem length_silent_le (holds : Look → Bool) (s : Step) : (silent holds s).length ≤ 2 := by
  cases s with
  | done => exact Nat.zero_le 2
  | take s next => exact Nat.zero_le 2
  | look l next =>
      rw [silent]
      split
      · exact Nat.le_succ 1
      · exact Nat.zero_le 2
  | jump next => exact Nat.le_succ 1
  | fork first second => exact Nat.le_refl 2

/-- A place that is followed up is no longer among those that have not been. -/
theorem card_unseen_lt {i : Nat} (hi : i < g.size) {seen : List Nat} (hseen : i ∉ seen) :
    (Finset.range g.size \ (i :: seen).toFinset).card <
      (Finset.range g.size \ seen.toFinset).card := by
  rw [List.toFinset_cons, Finset.sdiff_insert]
  refine Finset.card_erase_lt_of_mem ?_
  rw [Finset.mem_sdiff, Finset.mem_range, List.mem_toFinset]
  exact ⟨hi, hseen⟩

theorem card_unseen_le (g : Program) (i : Nat) (seen : List Nat) :
    (Finset.range g.size \ (i :: seen).toFinset).card ≤
      (Finset.range g.size \ seen.toFinset).card := by
  rw [List.toFinset_cons, Finset.sdiff_insert]
  exact Finset.card_erase_le

/-- **A round leaves fewer places to go to.** -/
theorem left_round_lt (h : g.round holds t = .again t') : t'.left g < t.left g := by
  rw [round] at h
  split at h
  · contradiction
  · next i rest hrest =>
      have hlength : t.rest.length = rest.length + 1 := congrArg List.length hrest
      split at h
      · injection h with h
        rw [← h, Trail.left_mk, Trail.left, hlength]
        omega
      · next hseen =>
          have hnew : i ∉ t.seen := fun hi => hseen (List.contains_iff_mem.mpr hi)
          injection h with h
          rw [← h, Trail.left_mk, Trail.left, hlength, List.length_append]
          cases hstep : g[i]? with
          | none =>
              have hle := card_unseen_le g i t.seen
              change 0 + rest.length + _ < _
              omega
          | some s =>
              have hlt := card_unseen_lt (Array.getElem?_eq_some_iff.mp hstep).1 hnew
              have htwo := length_silent_le holds s
              change (silent holds s).length + rest.length + _ < _
              omega

/-- **Places are followed up** as far as that goes. -/
theorem loop?_round (g : Program) (holds : Look → Bool) (places : List Nat) :
    loop? (g.round holds) (2 * g.size + places.length + 1) ⟨[], places⟩ =
      some (g.follow holds places) := by
  have hstart : Trail.left g ⟨[], places⟩ < 2 * g.size + places.length + 1 := by
    rw [Trail.left_mk, List.toFinset_nil, Finset.sdiff_empty, Finset.card_range]
    omega
  exact loop?_eq_some_getD (fun _ _ => left_round_lt) hstart _

end Program

end ComponentBrowser.Pattern
