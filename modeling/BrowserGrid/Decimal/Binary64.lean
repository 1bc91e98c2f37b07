/-!
# Binary floating-point numbers of 64 bits

A `Binary64` is its 64 bits: a sign, eleven bits of exponent and 52 bits of fraction.  The value of
a finite number is `mantissa * 2 ^ exponent`, negated under a sign (`mantissa`, `exponent`).  Every
operation here is exact arithmetic on natural numbers followed by one rounding, `ofRatio`, to the
nearest number, of two equally near ones to the one with the even mantissa.
-/

namespace BrowserGrid

/-- A floating-point number, given by its bits. -/
structure Binary64 where
  /-- The sign, the exponent and the fraction, from the highest bit down. -/
  bits : UInt64
  deriving DecidableEq, Inhabited

namespace Binary64

/-- The exponent of the smallest numbers. -/
def minExponent : Int := -1074

/-- Whether the sign bit is set. -/
def isNegative (x : Binary64) : Bool := x.bits.toNat ≥ Nat.pow 2 63

/-- The eleven bits of the exponent. -/
def biased (x : Binary64) : Nat := x.bits.toNat / Nat.pow 2 52 % Nat.pow 2 11

/-- The 52 bits of the fraction. -/
def fraction (x : Binary64) : Nat := x.bits.toNat % Nat.pow 2 52

/-- Whether the number is neither infinite nor no number. -/
def isFinite (x : Binary64) : Bool := x.biased < 2047

/-- Whether the number is infinite. -/
def isInfinite (x : Binary64) : Bool := x.biased == 2047 && x.fraction == 0

/-- Whether the number is zero, of either sign. -/
def isZero (x : Binary64) : Bool := x.biased == 0 && x.fraction == 0

/-- The factor of a power of two whose product is the size of a finite number. -/
def mantissa (x : Binary64) : Nat := if x.biased = 0 then x.fraction else Nat.pow 2 52 + x.fraction

/-- The exponent of that power of two. -/
def exponent (x : Binary64) : Int := if x.biased = 0 then minExponent else (x.biased : Int) - 1075

/-- The size of a finite number as a fraction. -/
def ratio (x : Binary64) : Nat × Nat :=
  match x.exponent with
  | .ofNat e => (x.mantissa * Nat.pow 2 e, 1)
  | .negSucc e => (x.mantissa, Nat.pow 2 (e + 1))

/-- Put a number together from its sign, its exponent bits and its fraction. -/
def ofParts (negative : Bool) (biased fraction : Nat) : Binary64 :=
  ⟨UInt64.ofNat ((if negative then Nat.pow 2 63 else 0) + biased * Nat.pow 2 52 + fraction)⟩

/-- The number without end of a sign. -/
def infinity (negative : Bool) : Binary64 := ofParts negative 2047 0

/-- The bits that are no number. -/
def nan : Binary64 := ofParts false 2047 (Nat.pow 2 51)

/-- Zero of a sign. -/
def zero (negative : Bool) : Binary64 := ofParts negative 0 0

/-- `num / den / 2 ^ e` rounded down, and whether the rest is below, at or above one half. -/
def scaled (num den : Nat) (e : Int) : Nat × Ordering :=
  let (n, d) := match e with
    | .ofNat k => (num, den * Nat.pow 2 k)
    | .negSucc k => (num * Nat.pow 2 (k + 1), den)
  (n / d, compare (2 * (n % d)) d)

/-- The number of a mantissa of at most 53 bits and an exponent. -/
def ofScaled (negative : Bool) (m : Nat) (e : Int) : Binary64 :=
  if m < Nat.pow 2 52 then ofParts negative 0 m
  else
    let biased := e + 1075
    if biased ≥ 2047 then infinity negative else ofParts negative biased.toNat (m - Nat.pow 2 52)

/-- The number nearest to `num / den`, of two the one with the even mantissa. -/
def ofRatio (negative : Bool) (num den : Nat) : Binary64 :=
  if num = 0 then zero negative
  else
    let guess : Int := (num.log2 : Int) - (den.log2 : Int) - 52
    let settle (e : Int) : Int :=
      if (scaled num den e).1 ≥ Nat.pow 2 53 then e + 1
      else if (scaled num den e).1 < Nat.pow 2 52 then e - 1 else e
    let e := max (settle guess) minExponent
    let (m, half) := scaled num den e
    let up := match half with
      | .lt => false
      | .gt => true
      | .eq => m % 2 == 1
    let m := if up then m + 1 else m
    if m = Nat.pow 2 53 then ofScaled negative (Nat.pow 2 52) (e + 1) else ofScaled negative m e

/-- The number nearest to a natural number. -/
def ofNat (n : Nat) : Binary64 := ofRatio false n 1

/-- The same number with the other sign. -/
def neg (x : Binary64) : Binary64 := ofParts (!x.isNegative) x.biased x.fraction

/-- The product of two finite numbers, rounded. -/
def mul (x y : Binary64) : Binary64 :=
  let (a, b) := x.ratio
  let (c, d) := y.ratio
  ofRatio (x.isNegative != y.isNegative) (a * c) (b * d)

/-- The quotient of two finite numbers, the divisor not zero, rounded. -/
def div (x y : Binary64) : Binary64 :=
  let (a, b) := x.ratio
  let (c, d) := y.ratio
  ofRatio (x.isNegative != y.isNegative) (a * d) (b * c)

/-- The number nearest to a power of ten. -/
def pow10 (k : Nat) : Binary64 := ofRatio false (Nat.pow 10 k) 1

/-- The number nearest to `digits * 10 ^ e`. -/
def ofDecimal (negative : Bool) (digits : Nat) (e : Int) : Binary64 :=
  if digits = 0 then zero negative
  else
    let top : Int := (digits.log2 : Int) / 3 + e
    if top > 400 then infinity negative
    else if top < -800 then zero negative
    else
      match e with
      | .ofNat k => ofRatio negative (digits * Nat.pow 10 k) 1
      | .negSucc k => ofRatio negative digits (Nat.pow 10 (k + 1))

/-- Whether two numbers are equal as numbers: the zeros are, and what is no number never is. -/
def same (x y : Binary64) : Bool :=
  if x.isZero && y.isZero then true
  else x.bits == y.bits && (x.isFinite || x.isInfinite)

/-- The whole number nearest to a finite number, of two the one further from zero. -/
def round (x : Binary64) : Int :=
  let (n, d) := x.ratio
  let size := (2 * n + d) / (2 * d)
  if x.isNegative then -(size : Int) else (size : Int)

end Binary64

end BrowserGrid
