import ComponentBrowser.Text.Decimal

/-!
# ComponentBrowser.Text.Grouped

Numbers with a comma between groups of three digits, as sizes are shown.
-/

namespace ComponentBrowser.Grouped

/-- Put a comma after each digit that has a positive multiple of three digits
behind it. -/
def insertCommas : List Char → List Char
  | [] => []
  | d :: ds =>
    if ds ≠ [] ∧ ds.length % 3 = 0 then d :: ',' :: insertCommas ds else d :: insertCommas ds

/-- The digits of a number, grouped by thousands. -/
def digits (n : Nat) : List Char := insertCommas (Decimal.digits n)

/-- A number grouped by thousands: `1234567` is written `1,234,567`. -/
def render (n : Nat) : String := String.ofList (digits n)

/-- The number that a grouped notation stands for. -/
def value (cs : List Char) : Nat := Decimal.value (cs.filter (· ≠ ','))

/-- Deleting the commas undoes their insertion, where there were none before. -/
theorem filter_insertCommas (ds : List Char) (h : ∀ d ∈ ds, d ≠ ',') :
    (insertCommas ds).filter (· ≠ ',') = ds := by
  induction ds with
  | nil => rfl
  | cons d ds ih =>
    have hd : d ≠ ',' := h d (by simp)
    have ih := ih (fun c hc => h c (by simp [hc]))
    unfold insertCommas
    split <;> simp_all

end ComponentBrowser.Grouped
