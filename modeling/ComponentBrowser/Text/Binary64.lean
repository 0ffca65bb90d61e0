import ComponentBrowser.Text.Decimal

/-!
# ComponentBrowser.Text.Binary64

Binary floating-point numbers of 64 bits, without their sign: the one nearest
to a ratio, and the fewest decimal digits that are nearer to it than to any
other.
-/

namespace ComponentBrowser

/-- The number `significand * 2 ^ exponent`.  A significand has at most 53
bits, and all 53 unless the exponent is the least one. -/
structure Binary64 where
  significand : Nat
  exponent : Int
  deriving DecidableEq, Repr

namespace Binary64

/-- The number of bits of a significand. -/
def precision : Nat := 53

/-- The least significand of full precision, the power of two with 52 zeros. -/
def leastNormal : Nat := 0x10000000000000

/-- The least exponent. -/
def leastExponent : Int := -1074

/-- A ratio of natural numbers. -/
structure Ratio where
  num : Nat
  den : Nat

/-- A ratio times a power. -/
def Ratio.scale (r : Ratio) (base : Nat) (e : Int) : Ratio :=
  if 0 ≤ e then ⟨r.num * base.pow e.toNat, r.den⟩ else ⟨r.num, r.den * base.pow (-e).toNat⟩

/-- The natural number nearest to a ratio; a half goes to the even neighbour. -/
def Ratio.round (r : Ratio) : Nat :=
  let whole := r.num / r.den
  let rest := 2 * (r.num % r.den)
  if r.den < rest ∨ (rest = r.den ∧ whole % 2 = 1) then whole + 1 else whole

/-- The number nearest to a ratio; a half goes to the even neighbour. -/
def ofRatio (r : Ratio) : Binary64 :=
  if r.num = 0 then ⟨0, leastExponent⟩
  else
    let guess : Int := r.num.log2 - r.den.log2 - (precision - 1)
    let scaled := r.scale 2 (-guess)
    let exact := if scaled.num < scaled.den * leastNormal then guess - 1 else guess
    let exponent := max exact leastExponent
    let significand := (r.scale 2 (-exponent)).round
    if significand = 2 * leastNormal then ⟨leastNormal, exponent + 1⟩
    else ⟨significand, exponent⟩

/-- A number as a ratio. -/
def toRatio (x : Binary64) : Ratio := Ratio.scale ⟨x.significand, 1⟩ 2 x.exponent

/-- The number nearest to a natural number. -/
def ofNat (n : Nat) : Binary64 := ofRatio ⟨n, 1⟩

/-- The number nearest to a sum. -/
def add (x y : Binary64) : Binary64 :=
  ofRatio
    ⟨x.toRatio.num * y.toRatio.den + y.toRatio.num * x.toRatio.den,
      x.toRatio.den * y.toRatio.den⟩

/-- Whether a number is less than another. -/
def isLess (x y : Binary64) : Bool :=
  x.toRatio.num * y.toRatio.den < y.toRatio.num * x.toRatio.den

/-- The number nearest to a product. -/
def mul (x y : Binary64) : Binary64 :=
  ofRatio ⟨x.toRatio.num * y.toRatio.num, x.toRatio.den * y.toRatio.den⟩

/-- The number nearest to a quotient. -/
def div (x y : Binary64) : Binary64 :=
  ofRatio ⟨x.toRatio.num * y.toRatio.den, x.toRatio.den * y.toRatio.num⟩

/-! ## the fewest digits -/

/-- Whether the decimal `digits * 10 ^ e` is read as the number: it lies
between the midpoints to the neighbours, or on one if the significand is even.
Below a power of two the lower neighbour is only half as far. -/
def isReadFrom (x : Binary64) (digits : Nat) (e : Int) : Bool :=
  let below := if x.significand = leastNormal ∧ leastExponent < x.exponent then 1 else 2
  let quarters := (Ratio.mk digits 1).scale 10 e |>.scale 2 (2 - x.exponent)
  let low := (4 * x.significand - below) * quarters.den
  let high := (4 * x.significand + 2) * quarters.den
  if x.significand % 2 = 0 then low ≤ quarters.num && quarters.num ≤ high
  else low < quarters.num && quarters.num < high

/-- The power of ten at or below a ratio, found upwards from `e`. -/
def magnitude (r : Ratio) (e : Int) : Nat → Int
  | 0 => e
  | steps + 1 =>
    let next := (Ratio.mk 1 1).scale 10 (e + 1)
    if next.num * r.den ≤ r.num * next.den then magnitude r (e + 1) steps else e

/-- The fewest digits that are read as the number, with the exponent of the
last one, tried from `count` digits on; of two the nearer, of equally near ones
the even. -/
def shortestFrom (x : Binary64) (top : Int) (count : Nat) : Nat → Nat × Int
  | 0 => (0, 0)
  | tries + 1 =>
    let e := top - count + 1
    let scaled := x.toRatio.scale 10 (-e)
    let nearest := scaled.round
    let below := scaled.num / scaled.den
    if x.isReadFrom nearest e then (nearest, e)
    else if x.isReadFrom below e then (below, e)
    else if x.isReadFrom (below + 1) e then (below + 1, e)
    else shortestFrom x top (count + 1) tries

/-- The shortest decimal that is read as the number, as digits and the exponent
of the last one. -/
def shortest (x : Binary64) : Nat × Int :=
  if x.significand = 0 then (0, 0)
  else shortestFrom x (magnitude x.toRatio (-324) 700) 1 17

end Binary64

end ComponentBrowser
