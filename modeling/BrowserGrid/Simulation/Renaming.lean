import BrowserGrid.Json
import BrowserGrid.Uuid
/-!
# Names for generated identifiers

The identifiers that a simulated hub generates say nothing, so what it shows has `$1`, `$2` and so
on in their place.  A `Renaming` is the list of the identifiers met so far: an identifier that was
met before keeps its name (`Renaming.name`), and a new one gets the next.
-/

namespace BrowserGrid.Simulation

/-- What every generated identifier begins with. -/
def identifierStem : List Char := (Uuid.ofSerial 0).text.toList.take 24

/-- How many digits follow that. -/
def serialDigits : Nat := 12

/-- The serial numbers of the identifiers met so far. -/
abbrev Renaming := List (List Char)

namespace Renaming

/-- The name of an identifier. -/
def name (known : Renaming) (serial : List Char) : List Char × Renaming :=
  match known.findIdx? (· == serial) with
  | some n => ('$' :: (toString (n + 1)).toList, known)
  | none => ('$' :: (toString (known.length + 1)).toList, known ++ [serial])

/-- Put names in place of the identifiers in a list of at most `fuel` characters. -/
def chars (fuel : Nat) (cs : List Char) (known : Renaming) : List Char × Renaming :=
  match fuel, cs with
  | 0, _ => (cs, known)
  | _, [] => ([], known)
  | fuel + 1, c :: rest =>
    match identifierStem.isPrefixOf? (c :: rest) with
    | some after =>
      let (front, known) := known.name (after.take serialDigits)
      let (back, known) := chars fuel (after.drop serialDigits) known
      (front ++ back, known)
    | none =>
      let (back, known) := chars fuel rest known
      (c :: back, known)

/-- Put names in place of the identifiers in a text. -/
def text (s : String) (known : Renaming) : String × Renaming :=
  let (cs, known) := chars s.length s.toList known
  (String.ofList cs, known)

mutual

/-- Put names in place of the identifiers in a value, from left to right. -/
def json (known : Renaming) : Json → Json × Renaming
  | .str s =>
    let (s, known) := text s known
    (.str s, known)
  | .arr js =>
    let (js, known) := items known js
    (.arr js, known)
  | .obj ms =>
    let (ms, known) := members known ms
    (.obj ms, known)
  | .null => (.null, known)
  | .bool b => (.bool b, known)
  | .num n => (.num n, known)

/-- Put names in place of the identifiers in the items of a list. -/
def items (known : Renaming) : List Json → List Json × Renaming
  | [] => ([], known)
  | j :: rest =>
    let (j, known) := json known j
    let (rest, known) := items known rest
    (j :: rest, known)

/-- Put names in place of the identifiers in the values of members. -/
def members (known : Renaming) : List (String × Json) → List (String × Json) × Renaming
  | [] => ([], known)
  | (key, j) :: rest =>
    let (j, known) := json known j
    let (rest, known) := members known rest
    ((key, j) :: rest, known)

end

end Renaming

end BrowserGrid.Simulation
