import BrowserGrid.KeyMap
import BrowserGrid.Decimal.Shortest
/-!
# JSON values

A `Json` value keeps the members of an object as a list, so that a document can be held as it was
written.  `canonical` is the value that it stands for: members in key order, of two with one key
the later one.  Numbers are whole or binary floating-point (`Json.Number`).
-/

namespace BrowserGrid

namespace Json

/-- A number. -/
inductive Number where
  /-- A whole number. -/
  | int (value : Int)
  /-- A number that was written with a point or an exponent, or is too large to be kept whole. -/
  | real (value : Binary64)
  deriving DecidableEq, Inhabited

end Json

/-- A JSON value. -/
inductive Json where
  /-- The null value. -/
  | null
  /-- A truth value. -/
  | bool (value : Bool)
  /-- A number. -/
  | num (value : Json.Number)
  /-- A text. -/
  | str (value : String)
  /-- A list. -/
  | arr (items : List Json)
  /-- An object with its members. -/
  | obj (members : List (String × Json))
  deriving Inhabited

namespace Json

/-! ### Building values -/

/-- A whole number. -/
def int (n : Int) : Json := .num (.int n)

/-- A natural number. -/
def nat (n : Nat) : Json := .num (.int n)

/-- A value, or null. -/
def ofOption (f : α → Json) : Option α → Json
  | none => .null
  | some a => f a

/-- A text, or null. -/
def ofText? : Option String → Json := ofOption .str

/-- A list of texts. -/
def ofTexts (texts : List String) : Json := .arr (texts.map .str)

/-- The object of a map. -/
def ofMap (m : KeyMap Json) : Json := .obj m.entries

/-- The object of a map of texts. -/
def ofTextMap (m : KeyMap String) : Json := .obj (m.entries.map fun e => (e.1, .str e.2))

/-! ### The value of a document -/

mutual

/-- The value with the members of every object in key order, the last of equal keys kept. -/
def canonical : Json → Json
  | .arr items => .arr (canonicalItems items)
  | .obj members => .obj (canonicalMembers members).entries
  | other => other

/-- `canonical` on the items of a list. -/
def canonicalItems : List Json → List Json
  | [] => []
  | j :: rest => canonical j :: canonicalItems rest

/-- The map of the members of an object: a later member goes before an earlier one. -/
def canonicalMembers : List (String × Json) → KeyMap Json
  | [] => KeyMap.empty
  | (k, j) :: rest => (canonicalMembers rest).insertNew k (canonical j)

end

/-! ### Equality -/

/-- Whether two numbers are equal: floating-point ones as numbers, so that the zeros are. -/
def Number.same : Number → Number → Bool
  | .int a, .int b => a == b
  | .real a, .real b => a.same b
  | _, _ => false

mutual

/-- Whether two values are equal, numbers as numbers. -/
def same : Json → Json → Bool
  | .null, .null => true
  | .bool a, .bool b => a == b
  | .num a, .num b => a.same b
  | .str a, .str b => a == b
  | .arr a, .arr b => sameItems a b
  | .obj a, .obj b => sameMembers a b
  | _, _ => false

/-- `same` item by item. -/
def sameItems : List Json → List Json → Bool
  | [], [] => true
  | a :: as, b :: bs => same a b && sameItems as bs
  | _, _ => false

/-- `same` member by member. -/
def sameMembers : List (String × Json) → List (String × Json) → Bool
  | [], [] => true
  | (k, a) :: as, (l, b) :: bs => k == l && same a b && sameMembers as bs
  | _, _ => false

end

mutual

/-- Whether two values are written alike is decidable. -/
def decEq : (a b : Json) → Decidable (a = b)
  | .null, .null => .isTrue rfl
  | .bool a, .bool b =>
    if h : a = b then .isTrue (h ▸ rfl) else .isFalse (fun e => h (by injection e))
  | .num a, .num b =>
    if h : a = b then .isTrue (h ▸ rfl) else .isFalse (fun e => h (by injection e))
  | .str a, .str b =>
    if h : a = b then .isTrue (h ▸ rfl) else .isFalse (fun e => h (by injection e))
  | .arr a, .arr b =>
    match decEqItems a b with
    | .isTrue h => .isTrue (h ▸ rfl)
    | .isFalse h => .isFalse (fun e => h (by injection e))
  | .obj a, .obj b =>
    match decEqMembers a b with
    | .isTrue h => .isTrue (h ▸ rfl)
    | .isFalse h => .isFalse (fun e => h (by injection e))
  | .null, .bool _ | .null, .num _ | .null, .str _ | .null, .arr _ | .null, .obj _
  | .bool _, .null | .bool _, .num _ | .bool _, .str _ | .bool _, .arr _ | .bool _, .obj _
  | .num _, .null | .num _, .bool _ | .num _, .str _ | .num _, .arr _ | .num _, .obj _
  | .str _, .null | .str _, .bool _ | .str _, .num _ | .str _, .arr _ | .str _, .obj _
  | .arr _, .null | .arr _, .bool _ | .arr _, .num _ | .arr _, .str _ | .arr _, .obj _
  | .obj _, .null | .obj _, .bool _ | .obj _, .num _ | .obj _, .str _ | .obj _, .arr _ =>
    .isFalse (fun e => by injection e)

/-- `decEq` on lists of values. -/
def decEqItems : (a b : List Json) → Decidable (a = b)
  | [], [] => .isTrue rfl
  | [], _ :: _ => .isFalse (fun e => by injection e)
  | _ :: _, [] => .isFalse (fun e => by injection e)
  | a :: as, b :: bs =>
    match decEq a b, decEqItems as bs with
    | .isTrue h, .isTrue hs => .isTrue (by rw [h, hs])
    | .isFalse h, _ => .isFalse (fun e => h (by injection e))
    | _, .isFalse h => .isFalse (fun e => h (by injection e))

/-- `decEq` on lists of members. -/
def decEqMembers : (a b : List (String × Json)) → Decidable (a = b)
  | [], [] => .isTrue rfl
  | [], _ :: _ => .isFalse (fun e => by injection e)
  | _ :: _, [] => .isFalse (fun e => by injection e)
  | (k, a) :: as, (l, b) :: bs =>
    if hk : k = l then
      match decEq a b, decEqMembers as bs with
      | .isTrue h, .isTrue hs => .isTrue (by rw [hk, h, hs])
      | .isFalse h, _ => .isFalse (fun e => h (by injection e with e; injection e))
      | _, .isFalse h => .isFalse (fun e => h (by injection e))
    else .isFalse (fun e => hk (by injection e with e; injection e))

end

instance : DecidableEq Json := decEq

/-! ### Looking into values -/

/-- The members of an object as a map; nothing for any other value. -/
def toMap? : Json → Option (KeyMap Json)
  | .obj members => some (canonicalMembers members)
  | _ => none

/-- The value at a key of an object. -/
def member? (key : String) : Json → Option Json
  | .obj members => KeyMap.lookup key members
  | _ => none

/-- The text of a text value. -/
def text? : Json → Option String
  | .str s => some s
  | _ => none

/-- A truth value. -/
def bool? : Json → Option Bool
  | .bool b => some b
  | _ => none

/-- A whole number. -/
def int? : Json → Option Int
  | .num (.int n) => some n
  | _ => none

/-- A natural number up to a bound. -/
def nat? (max : Nat) (j : Json) : Option Nat :=
  match j.int? with
  | some (.ofNat n) => if n ≤ max then some n else none
  | _ => none

/-- The items of a list. -/
def items? : Json → Option (List Json)
  | .arr items => some items
  | _ => none

/-- Null is nothing; any other value is read. -/
def optional? (read : Json → Option α) : Json → Option (Option α)
  | .null => some none
  | j => (read j).map some

/-- Every item of a list, read. -/
def list? (read : Json → Option α) (j : Json) : Option (List α) := do
  (← j.items?).mapM read

/-- An object whose members are all read, as a map. -/
def map? (read : Json → Option α) : Json → Option (KeyMap α)
  | .obj members => do
    let entries ← members.mapM fun e => do return (e.1, ← read e.2)
    return KeyMap.ofList entries
  | _ => none

/-- An object whose members are texts, as a map. -/
def textMap? : Json → Option (KeyMap String) := map? text?

end Json

end BrowserGrid
