import BrowserGrid.Text.Ascii
/-!
# IPv4 addresses

An address is up to four numbers with points between them, each decimal, octal after `0` or
hexadecimal after `0x`; the last number fills the bytes that the others leave.  Whether a host is
such an address is decided by its last part alone (`endsInNumber`).
-/

namespace BrowserGrid.Ipv4

/-- The value of a digit in a base up to sixteen. -/
def digit? (base : Nat) (c : Char) : Option Nat :=
  let value : Option Nat :=
    if '0' ≤ c ∧ c ≤ '9' then some (c.toNat - '0'.toNat)
    else if 'a' ≤ c ∧ c ≤ 'f' then some (c.toNat - 'a'.toNat + 10)
    else if 'A' ≤ c ∧ c ≤ 'F' then some (c.toNat - 'A'.toNat + 10)
    else none
  value.filter (· < base)

/-- The value of digits in a base. -/
def inBase? (base : Nat) (cs : List Char) : Option Nat :=
  cs.foldlM (fun v c => (digit? base c).map (v * base + ·)) 0

/-- The value of one part of an address. -/
def part? : List Char → Option Nat
  | [] => none
  | ['0'] => some 0
  | '0' :: 'x' :: rest => inBase? 16 rest
  | '0' :: 'X' :: rest => inBase? 16 rest
  | '0' :: rest => inBase? 8 rest
  | cs => inBase? 10 cs

/-- The parts of a host, one empty part at the end left out. -/
def parts (cs : List Char) : List (List Char) :=
  let ps := Text.piecesList (· = '.') cs
  if ps.length > 1 ∧ ps.getLast? = some [] then ps.dropLast else ps

/-- Whether the last part of a host is a number. -/
def endsInNumber (cs : List Char) : Bool :=
  match (parts cs).getLast? with
  | none => false
  | some last => (!last.isEmpty && last.all Char.isDigit) || (part? last).isSome

/-- The 32 bits of an address. -/
def parse? (cs : List Char) : Option Nat := do
  let ps := parts cs
  if ps.length > 4 then none
  let numbers ← ps.mapM part?
  let last ← numbers.getLast?
  let front := numbers.dropLast
  if last ≥ Nat.pow 256 (4 - front.length) ∨ front.any (· > 255) then none
  else
    let high := front.foldl (fun v n => v * 256 + n) 0
    return high * Nat.pow 256 (4 - front.length) + last

/-- An address as four numbers. -/
def text (n : Nat) : String :=
  let shifted := [n / Nat.pow 256 3, n / Nat.pow 256 2, n / 256, n]
  ".".intercalate (shifted.map fun b => toString (b % 256))

end BrowserGrid.Ipv4
