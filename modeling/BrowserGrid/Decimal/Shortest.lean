import BrowserGrid.Decimal.Binary64
/-!
# The fewest decimal digits that read back

`Binary64.shortest` gives a finite number as digits and a power of ten: of all decimals that round
to the number those with the fewest digits, and of these the one nearest to it.  For each count of
digits only two decimals can qualify, the neighbours of the number on that decimal grid.
`Decimal.Layout` says how digits and power are written.
-/

namespace BrowserGrid

/-- Digits without a sign and the power of ten that they are multiplied by. -/
structure Decimal where
  /-- The digits, read as one number. -/
  digits : Nat
  /-- The power of ten. -/
  exponent : Int
  deriving DecidableEq, Inhabited

namespace Binary64

/-- The least `j` up to `fuel` with `num * 10 ^ j ≥ den`. -/
def leadingZeros (num den : Nat) : (fuel : Nat) → Nat
  | 0 => 0
  | fuel + 1 => if num ≥ den then 0 else leadingZeros (num * 10) den fuel + 1

/-- The exponent of the first digit of `num / den`: `10 ^ e ≤ num / den < 10 ^ (e + 1)`. -/
def firstDigit (num den : Nat) : Int :=
  if num ≥ den then ((Nat.toDigits 10 (num / den)).length : Int) - 1
  else -(leadingZeros num den 400 : Int)

/-- The interval of the values that round to a finite number, and the number itself, in quarters of
the unit of its mantissa: the ends belong to it when the mantissa is even. -/
structure Interval where
  /-- The lower end. -/
  low : Nat
  /-- The number. -/
  value : Nat
  /-- The upper end. -/
  high : Nat
  /-- Whether the ends round to the number too. -/
  closed : Bool
  /-- The exponent of two of the unit. -/
  unit : Int

/-- The interval that rounds to a number. -/
def interval (x : Binary64) : Interval :=
  let m := x.mantissa
  let step := if x.fraction = 0 ∧ x.biased > 1 then 1 else 2
  ⟨4 * m - step, 4 * m, 4 * m + 2, m % 2 == 0, x.exponent - 2⟩

/-- The sides of the comparison of `a * 2 ^ u` with `d * 10 ^ k`, both multiplied until whole. -/
def sides (a : Nat) (u : Int) (d : Nat) (k : Int) : Nat × Nat :=
  let left := match u with
    | .ofNat e => a * Nat.pow 2 e
    | .negSucc _ => a
  let right := match u with
    | .ofNat _ => d
    | .negSucc e => d * Nat.pow 2 (e + 1)
  match k with
  | .ofNat e => (left, right * Nat.pow 10 e)
  | .negSucc e => (left * Nat.pow 10 (e + 1), right)

/-- Whether `d * 10 ^ k` rounds to the number of the interval. -/
def Interval.holds (i : Interval) (d : Nat) (k : Int) : Bool :=
  let (l, dl) := sides i.low i.unit d k
  let (h, dh) := sides i.high i.unit d k
  if i.closed then l ≤ dl && dh ≤ h else l < dl && dh < h

/-- The decimals of `n` digits that round to the number: its lower neighbour, its upper neighbour,
or of both the nearer, at a tie the even one. -/
def withDigits (x : Binary64) (n : Nat) : Option Decimal :=
  let i := x.interval
  let (num, den) := x.ratio
  let k : Int := firstDigit num den + 1 - n
  let d := match k with
    | .ofNat e => num / (den * Nat.pow 10 e)
    | .negSucc e => num * Nat.pow 10 (e + 1) / den
  let upper : Decimal := if d + 1 = Nat.pow 10 n then ⟨Nat.pow 10 (n - 1), k + 1⟩ else ⟨d + 1, k⟩
  match i.holds d k, i.holds (d + 1) k with
  | false, false => none
  | true, false => some ⟨d, k⟩
  | false, true => some upper
  | true, true =>
    let (v, middle) := sides (2 * i.value) i.unit (2 * d + 1) k
    if v < middle ∨ (v = middle ∧ d % 2 = 0) then some ⟨d, k⟩ else some upper

/-- The first count of digits, from `n` on, at which a decimal rounds to the number. -/
def shortestFrom (x : Binary64) (n : Nat) : (fuel : Nat) → Decimal
  | 0 => ⟨0, 0⟩
  | fuel + 1 =>
    match x.withDigits n with
    | some d => d
    | none => shortestFrom x (n + 1) fuel

/-- The shortest decimal that rounds to a finite number. -/
def shortest (x : Binary64) : Decimal :=
  if x.isZero then ⟨0, 0⟩ else x.shortestFrom 1 17

end Binary64

namespace Decimal

/-- How a decimal is laid out. -/
structure Layout where
  /-- The exponents of the first digit, from the first to the second, that are written out. -/
  positional : Option (Int × Int)
  /-- Whether a whole number written out ends in `.0`. -/
  pointZero : Bool
  /-- The sign in front of an exponent that is not negative. -/
  exponentSign : String

/-- The digits and the exponent of the first of them. -/
def spread (d : Decimal) : List Char × Int :=
  let ds := Nat.toDigits 10 d.digits
  (ds, d.exponent + ds.length - 1)

/-- The digits with the point in its place. -/
def positionalText (layout : Layout) (ds : List Char) (first : Int) : String :=
  if first < 0 then
    "0." ++ String.ofList (List.replicate (-first - 1).toNat '0' ++ ds)
  else
    let whole := first.toNat + 1
    if ds.length ≤ whole then
      String.ofList (ds ++ List.replicate (whole - ds.length) '0') ++
        (if layout.pointZero then ".0" else "")
    else String.ofList (ds.take whole) ++ "." ++ String.ofList (ds.drop whole)

/-- One digit, a point before the others, and the exponent. -/
def scientificText (layout : Layout) (ds : List Char) (first : Int) : String :=
  let mantissa := match ds with
    | [] => "0"
    | [d] => String.singleton d
    | d :: rest => String.singleton d ++ "." ++ String.ofList rest
  let sign := if first < 0 then "-" else layout.exponentSign
  mantissa ++ "e" ++ sign ++ String.ofList (Nat.toDigits 10 first.natAbs)

/-- The text of a decimal. -/
def text (layout : Layout) (d : Decimal) : String :=
  let (ds, first) := d.spread
  match layout.positional with
  | none => positionalText layout ds first
  | some (low, high) =>
    if low ≤ first ∧ first ≤ high then positionalText layout ds first
    else scientificText layout ds first

end Decimal

/-- The text of a finite number in a layout. -/
def Binary64.text (layout : Decimal.Layout) (x : Binary64) : String :=
  (if x.isNegative then "-" else "") ++ x.shortest.text layout

end BrowserGrid
