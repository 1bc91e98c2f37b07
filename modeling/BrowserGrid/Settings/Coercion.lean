import BrowserGrid.Json.Record
import BrowserGrid.Text.Ascii
import BrowserGrid.Text.Integer
/-!
# Lenient readings of settings

A setting may be written as another type than it has: `text?` takes numbers and truth values as
texts, and `natural?` takes texts, truth values and numbers with a point as whole numbers.  A number
with a point is rounded, halves away from zero, and kept within 64 bits.

`record?` reads a record from an object, or from a list in the order of its fields; items after the
last field do not count.
-/

namespace BrowserGrid.Settings

open Json.Record

/-- A number is written out in full. -/
def realLayout : Decimal.Layout := ⟨none, false, ""⟩

/-- The text of a number. -/
def realText (x : Binary64) : String :=
  if x.isFinite then x.text realLayout
  else if x.isInfinite then (if x.isNegative then "-inf" else "inf")
  else "NaN"

/-- A setting as a text. -/
def text? : Json → Option String
  | .str s => some s
  | .bool b => some (if b then "true" else "false")
  | .num (.int n) => some (toString n)
  | .num (.real x) => some (realText x)
  | .null | .arr _ | .obj _ => none

/-- The whole number nearest to a number, of those that fit in 64 bits. -/
def clamp (x : Binary64) : Nat :=
  if x.isFinite then min x.round.toNat Text.maxLong
  else if x.isInfinite && !x.isNegative then Text.maxLong
  else 0

/-- The whole number that a text means. -/
def meaning? (s : String) : Option Nat :=
  match Text.lower s with
  | "true" | "on" | "yes" => some 1
  | "false" | "off" | "no" => some 0
  | _ => Text.natural? Text.maxLong s

/-- A setting as a whole number up to `max`. -/
def natural? (max : Nat) (j : Json) : Option Nat :=
  let value := match j with
    | .str s => meaning? s
    | .bool b => some (if b then 1 else 0)
    | .num (.int n) => if 0 ≤ n then some n.toNat else none
    | .num (.real x) => some (clamp x)
    | .null | .arr _ | .obj _ => none
  value.filter (· ≤ max)

/-- Read a record. -/
def record? {α : Type} (reader : Reader α) : Json → Option α
  | .obj members => (reader.run (.named members)).map (·.1)
  | .arr items => (reader.run (.listed items)).map (·.1)
  | _ => none

end BrowserGrid.Settings
