import BrowserGrid.Text.Utf8
import BrowserGrid.Text.Ascii
/-!
# Domain names

A host name is decoded from its percent form and brought to ASCII: letters of ASCII in lower case,
and a label with other characters in the form `xn--`.  A label that already has this form must be
one that encoding produces.  Some characters never occur in a name (`isForbidden`).

The URL standard maps the characters of a name before it encodes them, by the tables of UTS #46.
The mapping is not here, but for the letters of ASCII: a label beyond ASCII is encoded as it stands,
which is the standard's form of it only where the mapping changes nothing.
-/

namespace BrowserGrid.Domain

/-! ### Percent encoding -/

/-- Replace each `%` and two hexadecimal digits by the byte that they write. -/
def percentDecode : List UInt8 → List UInt8
  | [] => []
  | b :: rest =>
    match b.toNat, rest with
    | 0x25, h :: l :: rest' =>
      match Utf8.hexValue? (Char.ofNat h.toNat), Utf8.hexValue? (Char.ofNat l.toNat) with
      | some high, some low => UInt8.ofNat (16 * high + low) :: percentDecode rest'
      | _, _ => b :: percentDecode (h :: l :: rest')
    | _, rest => b :: percentDecode rest
termination_by bs => bs.length
decreasing_by all_goals simp_wf; all_goals omega

/-- Replace control characters and the bytes of characters beyond ASCII by their percent form. -/
def percentEncode (cs : List Char) : List Char :=
  cs.flatMap fun c =>
    if c.toNat < 0x20 ∨ c.toNat ≥ 0x7F then
      (Utf8.encode (String.singleton c)).flatMap fun b =>
        ['%', (Utf8.hexDigit (b.toNat / 16)).toUpper, (Utf8.hexDigit (b.toNat % 16)).toUpper]
    else [c]

/-! ### Labels beyond ASCII -/

/-- The bias after a delta among `points` characters. -/
def adapt (delta points : Nat) (first : Bool) : Nat :=
  let rec go (k delta : Nat) : (fuel : Nat) → Nat
    | 0 => k
    | fuel + 1 =>
      if delta > 455 then go (k + 36) (delta / 35) fuel else k + 36 * delta / (delta + 38)
  let delta := if first then delta / 700 else delta / 2
  go 0 (delta + delta / points) 64

/-- The threshold of the digit at position `k`. -/
def threshold (k bias : Nat) : Nat := if k ≤ bias then 1 else if k ≥ bias + 26 then 26 else k - bias

/-- The value of a digit of base 36. -/
def digit36? (c : Char) : Option Nat :=
  if 'a' ≤ c ∧ c ≤ 'z' then some (c.toNat - 'a'.toNat)
  else if '0' ≤ c ∧ c ≤ '9' then some (c.toNat - '0'.toNat + 26)
  else none

/-- Read one number of variable length: its value added to `i`, and the rest. -/
def numeral? (bias : Nat) : (i w k : Nat) → List Char → Option (Nat × List Char)
  | _, _, _, [] => none
  | i, w, k, c :: rest => do
    let d ← digit36? c
    let i := i + d * w
    let t := threshold k bias
    if i ≥ Nat.pow 2 32 then none
    else if d < t then return (i, rest)
    else numeral? bias i (w * (36 - t)) (k + 36) rest

/-- Insert the characters that a list of numbers describes; each number takes a character, so the
length of the list bounds `fuel`. -/
def insertions? : (fuel n i bias : Nat) → List Char → (out : List Char) → Option (List Char)
  | 0, _, _, _, _, out => some out
  | _ + 1, _, _, _, [], out => some out
  | fuel + 1, n, i, bias, c :: cs, out => do
    let (j, rest) ← numeral? bias i 1 36 (c :: cs)
    let size := out.length + 1
    let n := n + j / size
    let place := j % size
    if n < 0x110000 ∧ ¬(0xD800 ≤ n ∧ n < 0xE000) then
      insertions? fuel n (place + 1) (adapt (j - i) size (i = 0)) rest
        (out.take place ++ Char.ofNat n :: out.drop place)
    else none

/-- The characters of a label after `xn--`. -/
def decodeLabel? (cs : List Char) : Option (List Char) :=
  let back := cs.reverse
  let (basic, rest) :=
    if cs.contains '-' then
      ((back.dropWhile (· ≠ '-')).drop 1 |>.reverse, (back.takeWhile (· ≠ '-')).reverse)
    else ([], cs)
  insertions? (cs.length + 1) 128 0 72 rest basic

/-- The digit of base 36 of a value. -/
def digit36 (d : Nat) : Char :=
  if d < 26 then Char.ofNat ('a'.toNat + d) else Char.ofNat ('0'.toNat + (d - 26))

/-- The digits of a number of variable length. -/
def numeralDigits (bias : Nat) : (q k fuel : Nat) → List Char
  | q, _, 0 => [digit36 q]
  | q, k, fuel + 1 =>
    let t := threshold k bias
    if q < t then [digit36 q]
    else digit36 (t + (q - t) % (36 - t)) :: numeralDigits bias ((q - t) / (36 - t)) (k + 36) fuel

/-- Describe the characters of a label from code point `n` on. -/
def encodeFrom (label : List Char) (basic : Nat) :
    (fuel n delta done bias : Nat) → List Char
  | 0, _, _, _, _ => []
  | fuel + 1, n, delta, done, bias =>
    let later := label.filter (fun c => c.toNat ≥ n)
    match later with
    | [] => []
    | c :: cs =>
      let m := cs.foldl (fun m c => min m c.toNat) c.toNat
      let delta := delta + (m - n) * (done + 1)
      let step (s : List Char × Nat × Nat × Nat) (c : Char) : List Char × Nat × Nat × Nat :=
        let (out, delta, done, bias) := s
        if c.toNat < m then (out, delta + 1, done, bias)
        else if c.toNat = m then
          (out ++ numeralDigits bias delta 36 32, 0, done + 1,
            adapt delta (done + 1) (done == basic))
        else s
      let (out, delta, done, bias) := label.foldl step ([], delta, done, bias)
      out ++ encodeFrom label basic fuel (m + 1) (delta + 1) done bias

/-- A label as it follows `xn--`. -/
def encodeLabel (label : List Char) : List Char :=
  let basic := label.filter (·.toNat < 128)
  basic ++ (if basic.isEmpty then [] else ['-']) ++
    encodeFrom label basic.length (label.length + 1) 128 0 basic.length 72

/-- Whether a character is in ASCII. -/
def isAscii (c : Char) : Bool := c.toNat < 128

/-- Whether a character is a control character. -/
def isControl (c : Char) : Bool := c.toNat < 0x20 || (0x7F ≤ c.toNat && c.toNat < 0xA0)

/-- A label in ASCII; bytes that were no text have no such form. -/
def asciiLabel? (label : List Char) : Option (List Char) :=
  let label := label.map Char.toLower
  if label.contains Utf8.replacement then none
  else if !label.all isAscii then some ("xn--".toList ++ encodeLabel label)
  else
    match "xn--".toList.isPrefixOf? label with
    | none => some label
    | some rest => do
      let decoded ← decodeLabel? rest
      if decoded.all isAscii ∨ decoded.any isControl ∨ encodeLabel decoded ≠ rest then none
      else some label

/-! ### Names -/

/-- The characters that no domain name has. -/
def isForbidden (c : Char) : Bool :=
  c.toNat ≤ 0x20 || c.toNat = 0x7F || "#%/:<>?@[\\]^|".toList.contains c

/-- The ASCII form of a name whose characters beyond ASCII have been mapped. -/
def toAscii? (name : List Char) : Option (List Char) := do
  let labels ← (Text.piecesList (· = '.') name).mapM asciiLabel?
  let ascii := (labels.intersperse ['.']).flatten
  if ascii.any isForbidden then none else some ascii

/-- The characters that no host of an unknown scheme has. -/
def isForbiddenOpaque (c : Char) : Bool :=
  "\x00\t\n\r #/:<>?@[\\]^|".toList.contains c

end BrowserGrid.Domain
