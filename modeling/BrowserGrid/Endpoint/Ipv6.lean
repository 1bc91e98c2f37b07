import BrowserGrid.Text.Ascii
import BrowserGrid.Endpoint.Ipv4
/-!
# IPv6 addresses

An address is eight pieces of up to four hexadecimal digits with colons between them; `::` stands
for the pieces that are left out, and the last two may be written as an IPv4 address.  `text` leaves
out the first longest run of at least two zero pieces.
-/

namespace BrowserGrid.Ipv6

/-- Read one piece of an address. -/
def piece? (cs : List Char) : Option Nat :=
  if cs.isEmpty ∨ cs.length > 4 then none else Ipv4.inBase? 16 cs

/-- A number of an IPv4 address inside an IPv6 address: decimal, without leading zeros, one byte. -/
def byte? (cs : List Char) : Option Nat :=
  if cs.isEmpty ∨ (cs.length > 1 ∧ cs.head? = some '0') then none
  else (Ipv4.inBase? 10 cs).filter (· ≤ 255)

/-- The two pieces that an IPv4 address fills. -/
def embedded? (cs : List Char) : Option (List Nat) :=
  match (Text.piecesList (· = '.') cs).mapM byte? with
  | some [a, b, c, d] => some [a * 256 + b, c * 256 + d]
  | _ => none

/-- The pieces between colons; the last may be an IPv4 address where `tail` says so. -/
def pieces? (tail : Bool) : List (List Char) → Option (List Nat)
  | [] => some []
  | [last] =>
    if tail ∧ last.contains '.' then embedded? last else (piece? last).map ([·])
  | p :: rest => do return (← piece? p) :: (← pieces? tail rest)

/-- The pieces of a part of an address, an empty part having none. -/
def part? (tail : Bool) (cs : List Char) : Option (List Nat) :=
  if cs.isEmpty then some [] else pieces? tail (Text.piecesList (· = ':') cs)

/-- The eight pieces of an address. -/
def parse? (cs : List Char) : Option (List Nat) :=
  match Text.cutList [':', ':'] cs with
  | none => (part? true cs).filter (·.length = 8)
  | some (front, back) => do
    let a ← part? false front
    let b ← part? true back
    let missing := 8 - (a.length + b.length)
    if missing = 0 then none else return a ++ List.replicate missing 0 ++ b

/-- How many zeros a list starts with. -/
def zeros (ps : List Nat) : Nat := (ps.takeWhile (· = 0)).length

/-- The start and the length of the first longest run of zeros, from position `at_` on. -/
def longestRun (at_ : Nat) : List Nat → Nat × Nat
  | [] => (at_, 0)
  | p :: rest =>
    let here := zeros (p :: rest)
    let later := longestRun (at_ + 1) rest
    if here ≥ later.2 then (at_, here) else later

/-- The digits of a piece. -/
def pieceText (n : Nat) : String := String.ofList (Nat.toDigits 16 n)

/-- An address in its shortest form. -/
def text (ps : List Nat) : String :=
  let (start, length) := longestRun 0 ps
  let join (qs : List Nat) : String := ":".intercalate (qs.map pieceText)
  if length ≥ 2 then join (ps.take start) ++ "::" ++ join (ps.drop (start + length)) else join ps

end BrowserGrid.Ipv6
