/-!
# Reading bytes as text

`Utf8.decodeLossy` reads bytes as UTF-8.  Where they are not well formed, the longest start of a
character that the bytes do form, or else the one byte at hand, becomes U+FFFD.
-/

namespace BrowserGrid.Utf8

/-- The character that stands for bytes that are not UTF-8. -/
def replacement : Char := '\uFFFD'

/-- What a first byte of a character of several bytes allows: how many bytes follow, the least and
the largest value of the first of them, and the bits that the first byte contributes. -/
def lead? (b : Nat) : Option (Nat × Nat × Nat × Nat) :=
  if 0xC2 ≤ b ∧ b ≤ 0xDF then some (1, 0x80, 0xBF, b - 0xC0)
  else if b = 0xE0 then some (2, 0xA0, 0xBF, 0)
  else if b = 0xED then some (2, 0x80, 0x9F, 0xD)
  else if 0xE1 ≤ b ∧ b ≤ 0xEF then some (2, 0x80, 0xBF, b - 0xE0)
  else if b = 0xF0 then some (3, 0x90, 0xBF, 0)
  else if 0xF1 ≤ b ∧ b ≤ 0xF3 then some (3, 0x80, 0xBF, b - 0xF0)
  else if b = 0xF4 then some (3, 0x80, 0x8F, 4)
  else none

/-- Read the `n` bytes that continue a character whose bits so far are `acc`, of which the first
lies between `low` and `high`: the character, or the replacement, and the bytes not used. -/
def continueChar : (n low high acc : Nat) → List UInt8 → Char × List UInt8
  | 0, _, _, acc, rest => (Char.ofNat acc, rest)
  | _ + 1, _, _, _, [] => (replacement, [])
  | n + 1, low, high, acc, b :: rest =>
    if low ≤ b.toNat ∧ b.toNat ≤ high then
      continueChar n 0x80 0xBF (acc * 64 + (b.toNat - 0x80)) rest
    else (replacement, b :: rest)

theorem length_continueChar_le : ∀ (n low high acc : Nat) (bs : List UInt8),
    (continueChar n low high acc bs).2.length ≤ bs.length
  | 0, _, _, _, _ => Nat.le_refl _
  | _ + 1, _, _, _, [] => Nat.le_refl _
  | n + 1, low, high, acc, b :: rest => by
    unfold continueChar
    split
    · exact Nat.le_succ_of_le (length_continueChar_le n _ _ _ rest)
    · exact Nat.le_refl _

/-- The characters that bytes stand for. -/
def decodeList : List UInt8 → List Char
  | [] => []
  | b :: rest =>
    if b.toNat < 0x80 then Char.ofNat b.toNat :: decodeList rest
    else
      match lead? b.toNat with
      | none => replacement :: decodeList rest
      | some (n, low, high, acc) =>
        (continueChar n low high acc rest).1 :: decodeList (continueChar n low high acc rest).2
termination_by bs => bs.length
decreasing_by
  all_goals simp_wf
  all_goals have := length_continueChar_le n low high acc rest
  all_goals omega

/-- The text that bytes stand for. -/
def decodeLossy (bytes : List UInt8) : String := String.ofList (decodeList bytes)

/-- The bytes of a text. -/
def encode (s : String) : List UInt8 := s.toUTF8.toList

/-- The digits of base sixteen. -/
def hexDigits : List Char := "0123456789abcdef".toList

/-- The character of a digit of base sixteen. -/
def hexDigit (n : Nat) : Char := hexDigits.getD n '0'

/-- Two hexadecimal digits for each byte. -/
def toHex (bytes : List UInt8) : String :=
  String.ofList (bytes.flatMap fun b => [hexDigit (b.toNat / 16), hexDigit (b.toNat % 16)])

/-- The value of a hexadecimal digit. -/
def hexValue? (c : Char) : Option Nat :=
  if '0' ≤ c ∧ c ≤ '9' then some (c.toNat - '0'.toNat)
  else if 'a' ≤ c ∧ c ≤ 'f' then some (c.toNat - 'a'.toNat + 10)
  else if 'A' ≤ c ∧ c ≤ 'F' then some (c.toNat - 'A'.toNat + 10)
  else none

/-- The bytes that pairs of hexadecimal digits write. -/
def ofHexList? : List Char → Option (List UInt8)
  | [] => some []
  | [_] => none
  | a :: b :: rest => do
    let high ← hexValue? a
    let low ← hexValue? b
    return UInt8.ofNat (16 * high + low) :: (← ofHexList? rest)

/-- The bytes that a text of hexadecimal digits writes. -/
def ofHex? (s : String) : Option (List UInt8) := ofHexList? s.toList

end BrowserGrid.Utf8
