import ComponentBrowser.Json.Value
import ComponentBrowser.Text.Binary64

/-!
# ComponentBrowser.Json.Double

Decimals of a JSON document as binary floating-point numbers, and the text of
these: the fewest digits that read back, positional from 0.00001 up to below
10^16 and scientific beyond.
-/

namespace ComponentBrowser.Json

/-- The leading digits of a decimal that fit 64 bits, with the exponent of the
last one. -/
def leading : List Char → Nat × Int → Nat × Int
  | [], kept => kept
  | c :: rest, (n, e) =>
    let longer := 10 * n + Decimal.digitValue c
    if longer < UInt64.size then leading rest (longer, e) else (n, e + rest.length + 1)

/-- The floating-point number that a decimal is read as: its leading digits,
then multiplied or divided by a power of ten, rounding after each step. -/
def toBinary64 (digits : Nat) (exponent : Int) : Binary64 :=
  let (n, e) := leading (Decimal.digits digits) (0, exponent)
  let power := fun (k : Nat) => Binary64.ofNat (Nat.pow 10 k)
  if 0 ≤ e then (Binary64.ofNat n).mul (power e.toNat)
  else if -308 ≤ e then (Binary64.ofNat n).div (power (-e).toNat)
  else if -616 ≤ e then ((Binary64.ofNat n).div (power 308)).div (power (-e - 308).toNat)
  else ((Binary64.ofNat n).div (power 308)).div (power 308)

/-- Digits with the exponent of the last one: written positionally while the
point lies between five places before the digits and sixteen places behind the
first, and with a signed exponent otherwise. -/
def positionalOrScientific (ds : List Char) (exponent : Int) : List Char :=
  let point : Int := ds.length + exponent
  let zeros := fun (n : Int) => List.replicate n.toNat '0'
  if 0 ≤ exponent ∧ point ≤ 16 then ds ++ zeros exponent ++ ['.', '0']
  else if 0 < point ∧ point ≤ 16 then ds.take point.toNat ++ '.' :: ds.drop point.toNat
  else if -5 < point ∧ point ≤ 0 then ['0', '.'] ++ zeros (-point) ++ ds
  else
    ds.take 1 ++ (if 1 < ds.length then '.' :: ds.drop 1 else []) ++
      'e' :: (if 0 < point then ['+'] else []) ++ (Decimal.renderInt (point - 1)).toList

/-- The text of a decimal once it has been read as a floating-point number. -/
def doubleText (negative : Bool) (digits : Nat) (exponent : Int) : String :=
  let (n, e) := (toBinary64 digits exponent).shortest
  let ds := Decimal.digits n
  let trailing := (ds.reverse.takeWhile (· == '0')).length
  let sign := if negative then ['-'] else []
  if n = 0 then String.ofList (sign ++ ['0', '.', '0'])
  else
    let significant := ds.take (ds.length - trailing)
    String.ofList (sign ++ positionalOrScientific significant (e + trailing))

end ComponentBrowser.Json
