/-!
# ComponentBrowser.Text.Decimal

Decimal notation of natural numbers: `digits` writes one, `value` reads one.
Main statements:

* `value_digits` — what is written reads back;
* `isDigit_of_mem_digits` — only the ten ASCII digits are written.
-/

namespace ComponentBrowser.Decimal

/-- The ASCII digit of a number below ten. -/
def digitChar (n : Nat) : Char := Char.ofNat (48 + n % 10)

/-- The number an ASCII digit stands for. -/
def digitValue (c : Char) : Nat := c.toNat - 48

/-- Whether a character is one of the ten ASCII digits. -/
def isDigit (c : Char) : Bool := 48 ≤ c.toNat && c.toNat ≤ 57

/-- The decimal digits of a number, without leading zeros. -/
def digits (n : Nat) : List Char :=
  if n < 10 then [digitChar n] else digits (n / 10) ++ [digitChar n]
termination_by n
decreasing_by omega

/-- The number a sequence of digits stands for. -/
def value (cs : List Char) : Nat := cs.foldl (fun n c => 10 * n + digitValue c) 0

/-- A number in decimal notation. -/
def render (n : Nat) : String := String.ofList (digits n)

/-- An integer in decimal notation; only negative ones carry a sign. -/
def renderInt (n : Int) : String :=
  if n < 0 then "-" ++ render n.natAbs else render n.natAbs

/-! ## what is written reads back -/

theorem toNat_digitChar (n : Nat) : (digitChar n).toNat = 48 + n % 10 := by
  have h : n % 10 < 10 := Nat.mod_lt _ (by decide)
  have hv : (48 + n % 10).isValidChar := Or.inl (by omega)
  rw [digitChar, Char.ofNat, dif_pos hv]
  rfl

@[simp] theorem digitValue_digitChar (n : Nat) : digitValue (digitChar n) = n % 10 := by
  simp [digitValue, toNat_digitChar]

@[simp] theorem isDigit_digitChar (n : Nat) : isDigit (digitChar n) = true := by
  have h : n % 10 < 10 := Nat.mod_lt _ (by decide)
  simp only [isDigit, toNat_digitChar, Bool.and_eq_true, decide_eq_true_eq]
  omega

theorem value_append_singleton (cs : List Char) (c : Char) :
    value (cs ++ [c]) = 10 * value cs + digitValue c := by
  simp [value, List.foldl_append]

/-- Reading the digits of a number gives the number. -/
@[simp] theorem value_digits (n : Nat) : value (digits n) = n := by
  fun_induction digits n with
  | case1 n h => simp [value, Nat.mod_eq_of_lt h]
  | case2 n h ih => rw [value_append_singleton, ih, digitValue_digitChar]; omega

/-- Only digits are written. -/
theorem isDigit_of_mem_digits (n : Nat) : ∀ c ∈ digits n, isDigit c = true := by
  fun_induction digits n with
  | case1 n h => simp
  | case2 n h ih =>
    intro c hc
    rcases List.mem_append.1 hc with hc | hc
    · exact ih c hc
    · simp at hc; simp [hc]

/-- Every number has a digit. -/
theorem digits_ne_nil (n : Nat) : digits n ≠ [] := by
  unfold digits
  split <;> simp

end ComponentBrowser.Decimal
