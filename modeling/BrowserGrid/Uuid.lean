/-!
# Universally unique identifiers

A `Uuid` is 128 bits.  `text` writes it as five groups of hexadecimal digits in lower case;
`parse?` also reads it without hyphens, between braces, and after `urn:uuid:`.
-/

namespace BrowserGrid

/-- An identifier of 128 bits. -/
structure Uuid where
  /-- The bits. -/
  bits : BitVec 128
  deriving DecidableEq, Inhabited

namespace Uuid

/-- The value of a hexadecimal digit. -/
def hexValue? (c : Char) : Option Nat :=
  if '0' ≤ c ∧ c ≤ '9' then some (c.toNat - '0'.toNat)
  else if 'a' ≤ c ∧ c ≤ 'f' then some (c.toNat - 'a'.toNat + 10)
  else if 'A' ≤ c ∧ c ≤ 'F' then some (c.toNat - 'A'.toNat + 10)
  else none

/-- The `n` lowest hexadecimal digits of a number, the highest first. -/
def hexDigits : (n : Nat) → Nat → List Char
  | 0, _ => []
  | n + 1, v => hexDigits n (v / 16) ++ ["0123456789abcdef".toList.getD (v % 16) '0']

/-- Five groups of 8, 4, 4, 4 and 12 digits with hyphens between them. -/
def group (ds : List Char) : List Char :=
  ds.take 8 ++ '-' :: (ds.drop 8).take 4 ++ '-' :: (ds.drop 12).take 4 ++
    '-' :: (ds.drop 16).take 4 ++ '-' :: ds.drop 20

/-- The text of an identifier. -/
def text (u : Uuid) : String := String.ofList (group (hexDigits 32 u.bits.toNat))

/-- The identifier of 32 hexadecimal digits. -/
def ofDigits? (ds : List Char) : Option Uuid := do
  if ds.length = 32 then
    let value ← ds.foldlM (fun v c => (hexValue? c).map (v * 16 + ·)) 0
    return ⟨BitVec.ofNat 128 value⟩
  else none

/-- The identifier of five groups of digits. -/
def ofGroups? (cs : List Char) : Option Uuid :=
  if cs.length = 36 && [8, 13, 18, 23].all (fun i => cs[i]? == some '-') then
    ofDigits? (cs.filter (· ≠ '-'))
  else none

/-- The identifier that a text writes in one of its forms. -/
def parse? (s : String) : Option Uuid :=
  let cs := s.toList
  match cs.length with
  | 32 => ofDigits? cs
  | 36 => ofGroups? cs
  | 38 =>
    if cs.head? = some '{' ∧ cs.getLast? = some '}' then ofGroups? ((cs.drop 1).take 36) else none
  | 45 =>
    if (cs.take 9).map Char.toLower = "urn:uuid:".toList then ofGroups? (cs.drop 9) else none
  | _ => none

/-- The `n`-th identifier of a fixed sequence in the layout of random ones. -/
def ofSerial (n : Nat) : Uuid :=
  ⟨BitVec.ofNat 128 (0xe7b1d3c6_0000_4000_8000_000000000000 + n)⟩

end Uuid

end BrowserGrid
