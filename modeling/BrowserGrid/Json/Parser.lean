import BrowserGrid.Json
/-!
# Reading JSON

`Json.document?` reads a text that holds one value with blanks around it, and keeps the members of
objects as written; `Json.parse?` gives the canonical value.  Lists and objects nest less than
`maxDepth` deep.  A number with a point or an exponent is its digits, as many as 64 bits hold,
times or over a power of ten, with a rounding at each of the two steps.
-/

namespace BrowserGrid.Json

namespace Grammar

/-- How deep lists and objects may nest. -/
def maxDepth : Nat := 128

/-- The blanks between tokens. -/
def isSpace (c : Char) : Bool := c = ' ' || c = '\n' || c = '\t' || c = '\r'

/-- Drop the blanks in front. -/
def skipSpace (cs : List Char) : List Char := cs.dropWhile isSpace

/-! ### Numbers -/

/-- The largest significand that is kept. -/
def maxSignificand : Nat := 18446744073709551615

/-- Take the digits of a fraction while the significand stays within 64 bits, counting them; the
digits after that are dropped. -/
def fractionDigits (significand : Nat) (count : Nat) : List Char → Nat × Nat × List Char
  | [] => (significand, count, [])
  | c :: cs =>
    if c.isDigit then
      let next := significand * 10 + (c.toNat - '0'.toNat)
      if next ≤ maxSignificand then fractionDigits next (count + 1) cs
      else (significand, count, cs.dropWhile Char.isDigit)
    else (significand, count, c :: cs)

/-- Take the digits of the whole part: the significand, how many digits did not fit, the rest. -/
def wholeDigits (significand : Nat) : List Char → Nat × Nat × List Char
  | [] => (significand, 0, [])
  | c :: cs =>
    if c.isDigit then
      let next := significand * 10 + (c.toNat - '0'.toNat)
      if next ≤ maxSignificand then wholeDigits next cs
      else
        let dropped := (c :: cs).takeWhile Char.isDigit
        (significand, dropped.length, (c :: cs).dropWhile Char.isDigit)
    else (significand, 0, c :: cs)

/-- A significand times a power of ten: divided by `10 ^ 308` while the exponent is below -308,
then multiplied or divided once.  Nothing when the product is infinite. -/
def scaleReal (x : Binary64) (e : Int) : (fuel : Nat) → Option Binary64
  | 0 => some x
  | fuel + 1 =>
    if e.natAbs ≤ 308 then
      if e ≥ 0 then
        let y := x.mul (Binary64.pow10 e.toNat)
        if y.isInfinite then none else some y
      else some (x.div (Binary64.pow10 e.natAbs))
    else if x.isZero then some x
    else if e ≥ 0 then none
    else scaleReal (x.div (Binary64.pow10 308)) (e + 308) fuel

/-- The floating-point number of a significand, an exponent of ten and a sign. -/
def realNumber (negative : Bool) (significand : Nat) (e : Int) : Option Number := do
  let x ← scaleReal (Binary64.ofNat significand) e 4
  return .real (if negative then x.neg else x)

/-- The largest exponent that is kept. -/
def maxExponent : Nat := 2147483647

/-- The digits of an exponent, `none` when they exceed its bound. -/
def exponentValue (cs : List Char) : Option Nat :=
  let value := cs.foldl (fun n c => n * 10 + (c.toNat - '0'.toNat)) 0
  if value ≤ maxExponent then some value else none

/-- Read the exponent of a number, the `e` being read already. -/
def exponentPart (negative : Bool) (significand : Nat) (start : Int) (cs : List Char) :
    Option (Number × List Char) :=
  let (down, cs) := match cs with
    | '+' :: rest => (false, rest)
    | '-' :: rest => (true, rest)
    | other => (false, other)
  let ds := cs.takeWhile Char.isDigit
  let rest := cs.dropWhile Char.isDigit
  if ds.isEmpty then none
  else
    match exponentValue ds with
    | none =>
      if significand ≠ 0 ∧ !down then none else some (.real (Binary64.zero negative), rest)
    | some e => do
      let n ← realNumber negative significand (if down then start - e else start + e)
      return (n, rest)

/-- Read a number after its sign. -/
def unsignedNumber (negative : Bool) (cs : List Char) : Option (Number × List Char) :=
  match cs with
  | [] => none
  | c :: more =>
    if !c.isDigit then none
    else if c = '0' && (more.head?.map Char.isDigit).getD false then none
    else
      let (significand, dropped, rest) := wholeDigits 0 cs
      match rest with
      | '.' :: after =>
        if !((after.head?.map Char.isDigit).getD false) then none
        else
          let (significand, count, rest) := fractionDigits significand 0 after
          let e : Int := dropped - count
          match rest with
          | 'e' :: after => exponentPart negative significand e after
          | 'E' :: after => exponentPart negative significand e after
          | _ => do return (← realNumber negative significand e, rest)
      | 'e' :: after => exponentPart negative significand dropped after
      | 'E' :: after => exponentPart negative significand dropped after
      | _ =>
        if dropped > 0 then do return (← realNumber negative significand dropped, rest)
        else if !negative then some (.int significand, rest)
        else if significand = 0 ∨ significand > Nat.pow 2 63 then
          some (.real (Binary64.ofNat significand).neg, rest)
        else some (.int (-significand), rest)

/-- Read a number. -/
def number? (cs : List Char) : Option (Number × List Char) :=
  match cs with
  | '-' :: rest => unsignedNumber true rest
  | _ => unsignedNumber false cs

/-! ### Texts -/

/-- The value of a hexadecimal digit. -/
def hexDigitValue? (c : Char) : Option Nat :=
  if c.isDigit then some (c.toNat - '0'.toNat)
  else if 'a' ≤ c ∧ c ≤ 'f' then some (c.toNat - 'a'.toNat + 10)
  else if 'A' ≤ c ∧ c ≤ 'F' then some (c.toNat - 'A'.toNat + 10)
  else none

/-- The value of four hexadecimal digits. -/
def hex4? (a b c d : Char) : Option Nat := do
  return (((← hexDigitValue? a) * 16 + (← hexDigitValue? b)) * 16 + (← hexDigitValue? c)) * 16 +
    (← hexDigitValue? d)

/-- The character that a letter after a backslash stands for. -/
def simpleEscape? (c : Char) : Option Char :=
  match c with
  | '"' => some '"'
  | '\\' => some '\\'
  | '/' => some '/'
  | 'b' => some '\x08'
  | 'f' => some '\x0c'
  | 'n' => some '\n'
  | 'r' => some '\r'
  | 't' => some '\t'
  | _ => none

/-- Put a character in front of what was read. -/
def consChar (c : Char) (r : List Char × List Char) : List Char × List Char := (c :: r.1, r.2)

/-- Read the characters of a text up to its closing quote. -/
def stringBody? : List Char → Option (List Char × List Char)
  | [] => none
  | '"' :: rest => some ([], rest)
  | '\\' :: 'u' :: a :: b :: c :: d :: '\\' :: 'u' :: e :: f :: g :: h :: rest => do
    let high ← hex4? a b c d
    if 0xD800 ≤ high ∧ high < 0xDC00 then
      let low ← hex4? e f g h
      if 0xDC00 ≤ low ∧ low < 0xE000 then
        let code := 0x10000 + (high - 0xD800) * 0x400 + (low - 0xDC00)
        return consChar (Char.ofNat code) (← stringBody? rest)
      else none
    else if 0xDC00 ≤ high ∧ high < 0xE000 then none
    else
      return consChar (Char.ofNat high)
        (← stringBody? ('\\' :: 'u' :: e :: f :: g :: h :: rest))
  | '\\' :: 'u' :: a :: b :: c :: d :: rest => do
    let code ← hex4? a b c d
    if 0xD800 ≤ code ∧ code < 0xE000 then none
    else return consChar (Char.ofNat code) (← stringBody? rest)
  | '\\' :: c :: rest => do
    let x ← simpleEscape? c
    return consChar x (← stringBody? rest)
  | c :: rest =>
    if c.toNat < 0x20 ∨ c = '\\' then none
    else (stringBody? rest).map (consChar c)

/-- Read a text between quotes. -/
def string? (cs : List Char) : Option (String × List Char) :=
  match cs with
  | '"' :: rest => (stringBody? rest).map (fun r => (String.ofList r.1, r.2))
  | _ => none

/-! ### Values -/

/-- Read a word that stands for a value. -/
def word? (word : String) (value : α) (cs : List Char) : Option (α × List Char) :=
  (word.toList.isPrefixOf? cs).map (fun rest => (value, rest))

mutual

/-- Read a value, blanks in front of it being dropped, with `depth` levels of nesting left.  Each
call reads at least one character, so the length of the text bounds `fuel`. -/
def value? : (fuel depth : Nat) → List Char → Option (Json × List Char)
  | 0, _, _ => none
  | fuel + 1, depth, cs =>
    match skipSpace cs with
    | 'n' :: rest => word? "ull" .null rest
    | 't' :: rest => word? "rue" (.bool true) rest
    | 'f' :: rest => word? "alse" (.bool false) rest
    | '"' :: rest => (stringBody? rest).map (fun r => (.str (String.ofList r.1), r.2))
    | '[' :: rest =>
      if depth ≤ 1 then none
      else
        match skipSpace rest with
        | ']' :: rest => some (.arr [], rest)
        | rest => (items? fuel (depth - 1) rest).map (fun r => (.arr r.1, r.2))
    | '{' :: rest =>
      if depth ≤ 1 then none
      else
        match skipSpace rest with
        | '}' :: rest => some (.obj [], rest)
        | rest => (members? fuel (depth - 1) rest).map (fun r => (.obj r.1, r.2))
    | other => (number? other).map (fun r => (.num r.1, r.2))

/-- Read the items of a list up to its closing bracket. -/
def items? : (fuel depth : Nat) → List Char → Option (List Json × List Char)
  | 0, _, _ => none
  | fuel + 1, depth, cs => do
    let (j, rest) ← value? fuel depth cs
    match skipSpace rest with
    | ',' :: rest =>
      let (js, rest) ← items? fuel depth rest
      return (j :: js, rest)
    | ']' :: rest => return ([j], rest)
    | _ => none

/-- Read the members of an object up to its closing brace. -/
def members? : (fuel depth : Nat) → List Char → Option (List (String × Json) × List Char)
  | 0, _, _ => none
  | fuel + 1, depth, cs => do
    let (k, rest) ← string? (skipSpace cs)
    match skipSpace rest with
    | ':' :: rest =>
      let (j, rest) ← value? fuel depth rest
      match skipSpace rest with
      | ',' :: rest =>
        let (ms, rest) ← members? fuel depth rest
        return ((k, j) :: ms, rest)
      | '}' :: rest => return ([(k, j)], rest)
      | _ => none
    | _ => none

end

/-- The value that stands at the start of a text, and what follows it. -/
def next? (depth : Nat) (cs : List Char) : Option (Json × List Char) :=
  value? (cs.length + 1) depth cs

end Grammar

/-- The value that a text holds, members as written. -/
def document? (s : String) : Option Json := do
  let (j, rest) ← Grammar.next? Grammar.maxDepth s.toList
  if (Grammar.skipSpace rest).isEmpty then some j else none

/-- The canonical value that a text holds. -/
def parse? (s : String) : Option Json := (document? s).map canonical

end BrowserGrid.Json
