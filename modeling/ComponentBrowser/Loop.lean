/-!
# ComponentBrowser.Loop

Loops that go round until they are done.  A loop gets fuel for a number of
rounds; one that has used it up before it is done has no result.

* `isSome_loop?` — a loop whose rounds lower a measure is done with as much fuel
  as the measure says;
* `of_loop?_eq_some` — what every round keeps holds of the result.
-/

namespace ComponentBrowser

/-- What a round of a loop leads to. -/
inductive Round (σ α : Type) where
  /-- Another round. -/
  | again (s : σ)
  /-- The end of the loop. -/
  | done (x : α)

namespace Round

variable {σ α ε : Type}

/-- Go on, if there is something to go on with. -/
def ofOption : Option σ → Round σ (Option α)
  | some s => again s
  | none => done none

/-- Go on, unless there is a fault. -/
def ofExcept : Except ε σ → Round σ (Except ε α)
  | .ok s => again s
  | .error fault => done (.error fault)

theorem ofOption_eq_again_iff {s? : Option σ} {s : σ} :
    (ofOption s? : Round σ (Option α)) = again s ↔ s? = some s := by
  cases s? <;> simp [ofOption]

theorem ofOption_eq_done_iff {s? : Option σ} {x : Option α} :
    ofOption s? = done x ↔ s? = none ∧ x = none := by
  cases s? <;> simp [ofOption, eq_comm]

theorem ofExcept_eq_again_iff {r : Except ε σ} {s : σ} :
    (ofExcept r : Round σ (Except ε α)) = again s ↔ r = .ok s := by
  cases r <;> simp [ofExcept]

end Round

/-- Go round until the loop is done or the fuel is used up. -/
def loop? {σ α : Type} (round : σ → Round σ α) : Nat → σ → Option α
  | 0, _ => none
  | fuel + 1, s =>
    match round s with
    | .again s => loop? round fuel s
    | .done x => some x

/-- **Enough fuel**: one round more than the measure, which each round lowers. -/
theorem isSome_loop? {σ α : Type} {round : σ → Round σ α} {measure : σ → Nat}
    (h : ∀ s s', round s = .again s' → measure s' < measure s) {fuel : Nat} {s : σ}
    (hfuel : measure s < fuel) : (loop? round fuel s).isSome = true := by
  induction fuel generalizing s with
  | zero => contradiction
  | succ fuel ih =>
      rw [loop?]
      cases hround : round s with
      | again s' => exact ih (Nat.lt_of_lt_of_le (h s s' hround) (Nat.le_of_lt_succ hfuel))
      | done x => rfl

/-- With enough fuel, what stands in for a missing result is never taken. -/
theorem loop?_eq_some_getD {σ α : Type} {round : σ → Round σ α} {measure : σ → Nat}
    (h : ∀ s s', round s = .again s' → measure s' < measure s) {fuel : Nat} {s : σ}
    (hfuel : measure s < fuel) (x : α) :
    loop? round fuel s = some ((loop? round fuel s).getD x) := by
  obtain ⟨result, hresult⟩ := Option.isSome_iff_exists.mp (isSome_loop? h hfuel)
  rw [hresult]
  rfl

/-- **What every round keeps** holds of the result. -/
theorem of_loop?_eq_some {σ α : Type} {round : σ → Round σ α} {before : σ → Prop}
    {after : α → Prop} (hagain : ∀ s s', before s → round s = .again s' → before s')
    (hdone : ∀ s x, before s → round s = .done x → after x) {fuel : Nat} {s : σ} {x : α}
    (hs : before s) (h : loop? round fuel s = some x) : after x := by
  induction fuel generalizing s with
  | zero => contradiction
  | succ fuel ih =>
      rw [loop?] at h
      cases hround : round s with
      | again s' =>
          rw [hround] at h
          exact ih (hagain s s' hs hround) h
      | done y =>
          rw [hround] at h
          injection h with h
          exact h ▸ hdone s y hs hround

end ComponentBrowser
