/-!
# Whole numbers as text

A number is an optional sign and at least one ASCII digit, with nothing around it, and it counts
only within the stated bounds.  A natural number takes no minus sign.
-/

namespace BrowserGrid.Text

/-- The value of an ASCII digit. -/
def digitValue? (c : Char) : Option Nat :=
  if '0' ≤ c ∧ c ≤ '9' then some (c.toNat - '0'.toNat) else none

/-- The number that decimal digits write, `none` where another character stands. -/
def decimalValue? (cs : List Char) : Option Nat :=
  cs.foldl (fun acc c => do return 10 * (← acc) + (← digitValue? c)) (some 0)

/-- At least one digit and nothing else. -/
def digits? (cs : List Char) : Option Nat :=
  if cs.isEmpty then none else decimalValue? cs

/-- The natural number up to `max` that a text writes. -/
def natural? (max : Nat) (s : String) : Option Nat :=
  let cs := match s.toList with
    | '+' :: rest => rest
    | other => other
  (digits? cs).filter (· ≤ max)

/-- The whole number from `min` to `max` that a text writes. -/
def integer? (min max : Int) (s : String) : Option Int :=
  let value : Option Int := match s.toList with
    | '+' :: rest => (digits? rest).map Int.ofNat
    | '-' :: rest => (digits? rest).map (fun n => -Int.ofNat n)
    | other => (digits? other).map Int.ofNat
  value.filter (fun n => min ≤ n && n ≤ max)

/-- The largest number of 16 bits, the bound of a port. -/
def maxPort : Nat := 65535

/-- The largest number of 32 bits. -/
def maxWord : Nat := 4294967295

/-- The largest number of 64 bits. -/
def maxLong : Nat := 18446744073709551615

/-- The smallest signed number of 64 bits. -/
def minSigned : Int := -9223372036854775808

/-- The largest signed number of 64 bits. -/
def maxSigned : Int := 9223372036854775807

/-- The port that a text writes. -/
def port? (s : String) : Option Nat := natural? maxPort s

end BrowserGrid.Text
