import BrowserGrid.Json
import BrowserGrid.Text.Integer
/-!
# Scalars of a TOML document

Texts, numbers, truth values and dates.  Each function reads one scalar at the start of a list of
characters and gives it with what follows.  Dates and times have no type of their own here: they
become the text that writes them in full.
-/

namespace BrowserGrid.Toml

/-! ### Characters -/

/-- The blanks between the tokens of a line. -/
def isBlank (c : Char) : Bool := c = ' ' || c = '\t'

/-- Whether a character may stand in a comment or a quoted text. -/
def isPrintable (c : Char) : Bool := c = '\t' || (c.toNat ≥ 0x20 && c.toNat ≠ 0x7f)

/-- The end of a line. -/
def newline? : List Char → Option (List Char)
  | '\n' :: rest => some rest
  | '\r' :: '\n' :: rest => some rest
  | _ => none

/-! ### Texts -/

/-- The value of hexadecimal digits. -/
def hexValue? (cs : List Char) : Option Nat :=
  cs.foldlM (fun n c =>
    if c.isDigit then some (n * 16 + (c.toNat - '0'.toNat))
    else if 'a' ≤ c ∧ c ≤ 'f' then some (n * 16 + (c.toNat - 'a'.toNat + 10))
    else if 'A' ≤ c ∧ c ≤ 'F' then some (n * 16 + (c.toNat - 'A'.toNat + 10))
    else none) 0

/-- The character of a number. -/
def scalar? (n : Nat) : Option Char :=
  if n < 0xD800 ∨ (0xE000 ≤ n ∧ n < 0x110000) then some (Char.ofNat n) else none

/-- Read what follows a backslash. -/
def escape? : List Char → Option (Char × List Char)
  | 'b' :: rest => some ('\x08', rest)
  | 't' :: rest => some ('\t', rest)
  | 'n' :: rest => some ('\n', rest)
  | 'f' :: rest => some ('\x0c', rest)
  | 'r' :: rest => some ('\r', rest)
  | '"' :: rest => some ('"', rest)
  | '\\' :: rest => some ('\\', rest)
  | 'u' :: rest =>
    if rest.length < 4 then none
    else do return (← scalar? (← hexValue? (rest.take 4)), rest.drop 4)
  | 'U' :: rest =>
    if rest.length < 8 then none
    else do return (← scalar? (← hexValue? (rest.take 8)), rest.drop 8)
  | _ => none

/-- Put a character in front of what was read. -/
def cons (c : Char) (r : List Char × List Char) : List Char × List Char := (c :: r.1, r.2)

/-- Read a text of one line up to its closing quote. -/
def basic? : (fuel : Nat) → List Char → Option (List Char × List Char)
  | 0, _ => none
  | fuel + 1, cs =>
    match cs with
    | '"' :: rest => some ([], rest)
    | '\\' :: rest => do
      let (c, rest) ← escape? rest
      return cons c (← basic? fuel rest)
    | c :: rest => if isPrintable c then (basic? fuel rest).map (cons c) else none
    | [] => none

/-- Read a literal text of one line up to its closing quote. -/
def literal? : List Char → Option (List Char × List Char)
  | '\'' :: rest => some ([], rest)
  | c :: rest => if isPrintable c then (literal? rest).map (cons c) else none
  | [] => none

/-- The end of a text of many lines: up to two more quotes belong to the text. -/
def closing? (quote : Char) (cs : List Char) : Option (List Char × List Char) :=
  let quotes := cs.takeWhile (· = quote)
  let n := quotes.length
  if n < 3 then none
  else
    let inside := min (n - 3) 2
    some (List.replicate inside quote, cs.drop (inside + 3))

/-- Drop blanks and ends of lines. -/
def skipLines : (fuel : Nat) → List Char → List Char
  | 0, cs => cs
  | fuel + 1, cs =>
    match cs.dropWhile isBlank with
    | rest =>
      match newline? rest with
      | some rest => skipLines fuel rest
      | none => rest

/-- A backslash at the end of a line drops that end and all blanks after it. -/
def lineContinuation? (cs : List Char) : Option (List Char) := do
  let rest ← newline? (cs.dropWhile isBlank)
  return skipLines (rest.length + 1) rest

/-- Read a text of many lines up to its closing quotes. -/
def longBasic? : (fuel : Nat) → List Char → Option (List Char × List Char)
  | 0, _ => none
  | fuel + 1, cs =>
    match closing? '"' cs with
    | some done => some done
    | none =>
      match newline? cs with
      | some rest => (longBasic? fuel rest).map (cons '\n')
      | none =>
        match cs with
        | '\\' :: rest =>
          match lineContinuation? rest with
          | some rest => longBasic? fuel rest
          | none => do
            let (c, rest) ← escape? rest
            return cons c (← longBasic? fuel rest)
        | c :: rest => if isPrintable c then (longBasic? fuel rest).map (cons c) else none
        | [] => none

/-- Read a literal text of many lines up to its closing quotes. -/
def longLiteral? : (fuel : Nat) → List Char → Option (List Char × List Char)
  | 0, _ => none
  | fuel + 1, cs =>
    match closing? '\'' cs with
    | some done => some done
    | none =>
      match newline? cs with
      | some rest => (longLiteral? fuel rest).map (cons '\n')
      | none =>
        match cs with
        | c :: rest => if isPrintable c then (longLiteral? fuel rest).map (cons c) else none
        | [] => none

/-- The end of a line right after opening quotes does not belong to the text. -/
def afterOpening (cs : List Char) : List Char := (newline? cs).getD cs

/-- Read a quoted text of one line. -/
def quoted? : List Char → Option (String × List Char)
  | '"' :: rest => (basic? (rest.length + 1) rest).map fun r => (String.ofList r.1, r.2)
  | '\'' :: rest => (literal? rest).map fun r => (String.ofList r.1, r.2)
  | _ => none

/-- Read a quoted text. -/
def text? (cs : List Char) : Option (String × List Char) :=
  match cs with
  | '"' :: '"' :: '"' :: rest =>
    (longBasic? (rest.length + 1) (afterOpening rest)).map fun r => (String.ofList r.1, r.2)
  | '\'' :: '\'' :: '\'' :: rest =>
    (longLiteral? (rest.length + 1) (afterOpening rest)).map fun r => (String.ofList r.1, r.2)
  | _ => quoted? cs

/-! ### Numbers -/

/-- Read a sign. -/
def sign : List Char → Bool × List Char
  | '-' :: rest => (true, rest)
  | '+' :: rest => (false, rest)
  | cs => (false, cs)

/-- Read digits of a class with single underscores between them; at least one. -/
def digitRun? (isDigit : Char → Bool) (cs : List Char) : Option (List Char × List Char) :=
  let run := cs.takeWhile fun c => isDigit c || c = '_'
  let rest := cs.dropWhile fun c => isDigit c || c = '_'
  let pieces := run.splitOn '_'
  if pieces.any List.isEmpty then none else some (pieces.flatten, rest)

/-- Read the digits of a decimal number without leading zeros. -/
def decimalRun? (cs : List Char) : Option (List Char × List Char) :=
  match cs with
  | '0' :: rest => some (['0'], rest)
  | _ => digitRun? Char.isDigit cs

/-- The value of digits in a base. -/
def valueOf (base : Nat) (ds : List Char) : Nat :=
  ds.foldl (fun n c => n * base + (hexValue? [c]).getD 0) 0

/-- A whole number of 64 bits. -/
def integerOf? (n : Int) : Option Json :=
  if Text.minSigned ≤ n ∧ n ≤ Text.maxSigned then some (.int n) else none

/-- Read a number in a base other than ten, after its mark. -/
def basedInteger? (base : Nat) (isDigit : Char → Bool) (cs : List Char) :
    Option (Json × List Char) := do
  let (ds, rest) ← digitRun? isDigit cs
  return (← integerOf? (valueOf base ds), rest)

/-- Whether a character is a hexadecimal digit. -/
def isHexDigit (c : Char) : Bool :=
  c.isDigit || ('a' ≤ c && c ≤ 'f') || ('A' ≤ c && c ≤ 'F')

/-- Read a whole number. -/
def integer? (cs : List Char) : Option (Json × List Char) :=
  match cs with
  | '0' :: 'x' :: rest => basedInteger? 16 isHexDigit rest
  | '0' :: 'o' :: rest => basedInteger? 8 (fun c => '0' ≤ c && c ≤ '7') rest
  | '0' :: 'b' :: rest => basedInteger? 2 (fun c => c = '0' || c = '1') rest
  | _ => do
    let (negative, cs) := sign cs
    let (ds, rest) ← decimalRun? cs
    let n : Int := valueOf 10 ds
    return (← integerOf? (if negative then -n else n), rest)

/-- Read the exponent of a number, if there is one. -/
def exponent? (cs : List Char) : Option (Int × List Char) :=
  let read (rest : List Char) : Option (Int × List Char) := do
    let (negative, cs) := sign rest
    let (ds, rest) ← digitRun? Char.isDigit cs
    let n : Int := valueOf 10 ds
    return (if negative then -n else n, rest)
  match cs with
  | 'e' :: rest => read rest
  | 'E' :: rest => read rest
  | _ => some (0, cs)

/-- Read a number with a point or an exponent.  One that is too large is refused. -/
def real? (cs : List Char) : Option (Json × List Char) := do
  let (negative, cs) := sign cs
  let (whole, cs) ← decimalRun? cs
  let (fraction, exponent, rest) ← (match cs with
    | '.' :: rest => do
      let (fraction, rest) ← digitRun? Char.isDigit rest
      let (e, rest) ← exponent? rest
      return (fraction, e, rest)
    | 'e' :: _ | 'E' :: _ => do
      let (e, rest) ← exponent? cs
      return ([], e, rest)
    | _ => none)
  let x := Binary64.ofDecimal negative (valueOf 10 (whole ++ fraction))
    (exponent - fraction.length)
  if x.isInfinite && !negative then none else return (.num (.real x), rest)

/-- Read infinity or what is no number. -/
def special? (cs : List Char) : Option (Json × List Char) :=
  let (negative, cs) := sign cs
  match cs with
  | 'i' :: 'n' :: 'f' :: rest => some (.num (.real (.infinity negative)), rest)
  | 'n' :: 'a' :: 'n' :: rest => some (.num (.real .nan), rest)
  | _ => none

/-! ### Dates and times -/

/-- Read a number of a fixed count of digits within bounds. -/
def field? (count low high : Nat) (cs : List Char) : Option (Nat × List Char) := do
  let ds := cs.take count
  if ds.length = count then
    let n ← Text.digits? ds
    if low ≤ n ∧ n ≤ high then some (n, cs.drop count) else none
  else none

/-- Read a character. -/
def char? (c : Char) : List Char → Option (List Char)
  | [] => none
  | d :: rest => if d = c then some rest else none

/-- Whether a year has a leap day. -/
def isLeap (year : Nat) : Bool := year % 4 = 0 && (year % 100 ≠ 0 || year % 400 = 0)

/-- The number of days of a month. -/
def daysOf (year month : Nat) : Nat :=
  if month = 2 then (if isLeap year then 29 else 28)
  else if month = 4 ∨ month = 6 ∨ month = 9 ∨ month = 11 then 30
  else 31

/-- A number with zeros in front of it. -/
def padded (width n : Nat) : String :=
  let ds := toString n
  String.ofList (List.replicate (width - ds.length) '0') ++ ds

/-- Read a date. -/
def date? (cs : List Char) : Option (String × List Char) := do
  let (year, cs) ← field? 4 0 9999 cs
  let (month, cs) ← field? 2 1 12 (← char? '-' cs)
  let (day, rest) ← field? 2 1 (daysOf year month) (← char? '-' cs)
  return (padded 4 year ++ "-" ++ padded 2 month ++ "-" ++ padded 2 day, rest)

/-- The text of a part of a second, of which nine digits count. -/
def secondsText (ds : List Char) : String :=
  let kept := ((ds.take 9).reverse.dropWhile (· = '0')).reverse
  if kept.isEmpty then "" else "." ++ String.ofList kept

/-- Read a time. -/
def time? (cs : List Char) : Option (String × List Char) := do
  let (hour, cs) ← field? 2 0 23 cs
  let (minute, cs) ← field? 2 0 59 (← char? ':' cs)
  let (second, cs) ← field? 2 0 60 (← char? ':' cs)
  let whole := padded 2 hour ++ ":" ++ padded 2 minute ++ ":" ++ padded 2 second
  match cs with
  | '.' :: rest =>
    let ds := rest.takeWhile Char.isDigit
    if ds.isEmpty then return (whole, cs)
    else return (whole ++ secondsText ds, rest.dropWhile Char.isDigit)
  | _ => return (whole, cs)

/-- Read the distance of a time from the standard time, if it is stated. -/
def offset? (cs : List Char) : Option (String × List Char) :=
  let read (negative : Bool) (cs : List Char) : Option (String × List Char) := do
    let (hour, cs) ← field? 2 0 23 cs
    let (minute, rest) ← field? 2 0 59 (← char? ':' cs)
    let sign := if negative && hour + minute > 0 then "-" else "+"
    return (sign ++ padded 2 hour ++ ":" ++ padded 2 minute, rest)
  match cs with
  | 'Z' :: rest | 'z' :: rest => some ("Z", rest)
  | '+' :: rest => read false rest
  | '-' :: rest => read true rest
  | _ => some ("", cs)

/-- Read the time that may follow a date. -/
def timeOfDay? (date : String) (cs : List Char) : Option (String × List Char) :=
  let read (rest : List Char) : Option (String × List Char) := do
    let (time, rest) ← time? rest
    let (offset, rest) ← offset? rest
    return (date ++ "T" ++ time ++ offset, rest)
  match cs with
  | 'T' :: rest | 't' :: rest | ' ' :: rest => (read rest).or (some (date, cs))
  | _ => some (date, cs)

/-- Read a date, a time or both. -/
def moment? (cs : List Char) : Option (Json × List Char) :=
  let both := do
    let (date, rest) ← date? cs
    timeOfDay? date rest
  (both.or (time? cs)).map fun (text, rest) => (.str text, rest)

/-! ### Any scalar -/

/-- Read a word that stands for a value. -/
def word? (word : String) (value : Json) (cs : List Char) : Option (Json × List Char) :=
  (word.toList.isPrefixOf? cs).map (value, ·)

/-- Read a scalar other than a text. -/
def scalarValue? (cs : List Char) : Option (Json × List Char) :=
  (word? "true" (.bool true) cs).or <| (word? "false" (.bool false) cs).or <|
    (moment? cs).or <| (real? cs).or <| (special? cs).or (integer? cs)

end BrowserGrid.Toml
