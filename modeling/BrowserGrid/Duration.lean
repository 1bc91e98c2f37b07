/-!
# Spans of time

A `Duration` counts nanoseconds.  Its text is in the largest of the units s, ms, µs and ns that it
fills, with as many decimals as it needs.
-/

namespace BrowserGrid

/-- A span of time in nanoseconds. -/
structure Duration where
  /-- The number of nanoseconds. -/
  nanos : Nat
  deriving DecidableEq, Inhabited

namespace Duration

/-- A whole number of milliseconds. -/
def ofMillis (ms : Nat) : Duration := ⟨ms * 1000000⟩

/-- A whole number of seconds. -/
def ofSecs (secs : Nat) : Duration := ⟨secs * 1000000000⟩

/-- The digits of a number of `width` places without the zeros at their end. -/
def decimals (width n : Nat) : List Char :=
  let ds := Nat.toDigits 10 n
  let padded := List.replicate (width - ds.length) '0' ++ ds
  (padded.reverse.dropWhile (· = '0')).reverse

/-- A count of a unit of `10 ^ places` nanoseconds. -/
def inUnit (d : Duration) (places : Nat) (unit : String) : String :=
  let whole := toString (d.nanos / Nat.pow 10 places)
  match decimals places (d.nanos % Nat.pow 10 places) with
  | [] => whole ++ unit
  | ds => whole ++ "." ++ String.ofList ds ++ unit

/-- The text of a span. -/
def text (d : Duration) : String :=
  if d.nanos ≥ Nat.pow 10 9 then d.inUnit 9 "s"
  else if d.nanos ≥ Nat.pow 10 6 then d.inUnit 6 "ms"
  else if d.nanos ≥ Nat.pow 10 3 then d.inUnit 3 "µs"
  else d.inUnit 0 "ns"

end Duration

end BrowserGrid
