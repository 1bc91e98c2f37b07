import BrowserGrid.Text.Unprintable
/-!
# Texts as literals

A literal stands between double quotes.  A backslash comes before the quotes and backslashes inside
it, some controls have a letter, and any other character that shows nothing is written by its
number.
-/

namespace BrowserGrid.Text

/-- A character inside a literal; `quotes` are the characters that a backslash comes before. -/
def escaped (quotes : List Char) (c : Char) : List Char :=
  if c = '\x00' then ['\\', '0']
  else if c = '\t' then ['\\', 't']
  else if c = '\n' then ['\\', 'n']
  else if c = '\r' then ['\\', 'r']
  else if c = '\\' ∨ c ∈ quotes then ['\\', c]
  else if isUnprintable c then
    ['\\', 'u', '\x7b'] ++ Nat.toDigits 16 c.toNat ++ ['\x7d']
  else [c]

/-- A text as a literal, with a backslash before the characters `quotes`. -/
def quotedWith (quotes : List Char) (s : String) : String :=
  String.ofList (['"'] ++ s.toList.flatMap (escaped quotes) ++ ['"'])

/-- A text as a literal. -/
def literal (s : String) : String := quotedWith ['"'] s

/-- A path as a literal, where single quotes have a backslash as well. -/
def pathLiteral (path : String) : String := quotedWith ['"', '\''] path

end BrowserGrid.Text
