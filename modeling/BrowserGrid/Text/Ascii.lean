/-!
# Letter case within ASCII

Only the letters `A` to `Z` and `a` to `z` have a case here; every other character is left alone.
-/

namespace BrowserGrid.Text

/-- A text with `A` to `Z` in lower case. -/
def lower (s : String) : String := String.ofList (s.toList.map Char.toLower)

/-- A text with `a` to `z` in upper case. -/
def upper (s : String) : String := String.ofList (s.toList.map Char.toUpper)

/-- Whether two texts differ at most in the case of ASCII letters. -/
def sameIgnoringCase (a b : String) : Bool := lower a == lower b

/-- The part of a text after a prefix. -/
def dropPrefix? (start s : String) : Option String :=
  (start.toList.isPrefixOf? s.toList).map String.ofList

/-- The part of a text before a suffix. -/
def dropSuffix? (ending s : String) : Option String :=
  (ending.toList.reverse.isPrefixOf? s.toList.reverse).map (fun r => String.ofList r.reverse)

/-- Cut a list at the first place where `sep` stands, which is left out of both parts. -/
def cutList (sep : List Char) : List Char → Option (List Char × List Char)
  | [] => if sep.isEmpty then some ([], []) else none
  | c :: cs =>
    match sep.isPrefixOf? (c :: cs) with
    | some rest => some ([], rest)
    | none => (cutList sep cs).map (fun p => (c :: p.1, p.2))

/-- Cut a text at the first place where `sep` stands. -/
def cut? (sep s : String) : Option (String × String) :=
  (cutList sep.toList s.toList).map (fun p => (String.ofList p.1, String.ofList p.2))

/-- Cut a list at the first character of a class, which is left out of both parts. -/
def cutAtList (p : Char → Bool) : List Char → Option (List Char × List Char)
  | [] => none
  | c :: cs => if p c then some ([], cs) else (cutAtList p cs).map (fun q => (c :: q.1, q.2))

/-- Cut a text at the first character of a class. -/
def cutAt? (p : Char → Bool) (s : String) : Option (String × String) :=
  (cutAtList p s.toList).map (fun q => (String.ofList q.1, String.ofList q.2))

/-- The pieces of a list between the characters of a class; one more than there are of these. -/
def piecesList (p : Char → Bool) : List Char → List (List Char)
  | [] => [[]]
  | c :: cs =>
    if p c then [] :: piecesList p cs
    else
      match piecesList p cs with
      | [] => [[c]]
      | piece :: rest => (c :: piece) :: rest

/-- The pieces of a text between the characters of a class. -/
def pieces (p : Char → Bool) (s : String) : List String := (piecesList p s.toList).map String.ofList

/-- The number of bytes of a text in UTF-8. -/
def byteLength (s : String) : Nat := s.utf8ByteSize

end BrowserGrid.Text
