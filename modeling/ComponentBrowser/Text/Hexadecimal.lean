/-!
# ComponentBrowser.Text.Hexadecimal

Hexadecimal digits, in either case.
-/

namespace ComponentBrowser.Hexadecimal

/-- The value of a hexadecimal digit. -/
def value? (c : Char) : Option Nat :=
  if '0' ≤ c ∧ c ≤ '9' then some (c.toNat - 48)
  else if 'a' ≤ c ∧ c ≤ 'f' then some (c.toNat - 87)
  else if 'A' ≤ c ∧ c ≤ 'F' then some (c.toNat - 55)
  else none

end ComponentBrowser.Hexadecimal
