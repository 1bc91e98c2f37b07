/-!
# Blank characters

`Char.isBlank` holds for the characters with the Unicode property `White_Space`; `Text.trim`
removes them from both ends of a text.
-/

namespace BrowserGrid.Text

/-- The code points with the Unicode property `White_Space`, as closed ranges. -/
def blankRanges : List (Nat × Nat) :=
  [(0x0009, 0x000D), (0x0020, 0x0020), (0x0085, 0x0085), (0x00A0, 0x00A0), (0x1680, 0x1680),
   (0x2000, 0x200A), (0x2028, 0x2029), (0x202F, 0x202F), (0x205F, 0x205F), (0x3000, 0x3000)]

/-- Whether a character is blank. -/
def isBlank (c : Char) : Bool :=
  blankRanges.any (fun r => r.1 ≤ c.toNat && c.toNat ≤ r.2)

/-- Drop the blanks in front. -/
def trimLeftList (cs : List Char) : List Char := cs.dropWhile isBlank

/-- Drop the blanks at the end. -/
def trimRightList (cs : List Char) : List Char := (trimLeftList cs.reverse).reverse

/-- Drop the blanks at both ends. -/
def trimList (cs : List Char) : List Char := trimRightList (trimLeftList cs)

/-- A text without the blanks at its ends. -/
def trim (s : String) : String := String.ofList (trimList s.toList)

/-- Whether a text has no character that is not blank. -/
def isBlankText (s : String) : Bool := s.toList.all isBlank

/-- A text trimmed, or nothing where only blanks stood. -/
def trimmed? (s : String) : Option String :=
  let t := trim s
  if t.isEmpty then none else some t

end BrowserGrid.Text
