import BrowserGrid.Json
/-!
# Tables of a TOML document

A document is put together statement by statement.  A `Node` remembers how it came about, because
that decides what later statements may add to it: a table that has its own header, or that is
written as a value, is never defined again; a table that only lies on the way to another may still
get its header; a table made by dotted keys grows by dotted keys alone.

`Members.declare` is the effect of a header, `Members.append` that of a header in double brackets,
and `Members.assign` that of a key with its value.  Each gives nothing where the document is wrong.
-/

namespace BrowserGrid.Toml

/-- How a table came about. -/
inductive TableKind where
  /-- It has a header. -/
  | headed
  /-- It lies on the way to the table of a header. -/
  | passed
  /-- It lies on the way to the value of a dotted key. -/
  | dotted
  deriving DecidableEq, Inhabited

/-- What stands at a key. -/
inductive Node where
  /-- A value. -/
  | value (value : Json)
  /-- A table. -/
  | table (kind : TableKind) (members : List (String × Node))
  /-- A list of tables with headers in double brackets, the last of them apart. -/
  | tables (earlier : List (List (String × Node))) (last : List (String × Node))
  deriving Inhabited

/-- The members of a table in the order of the document. -/
abbrev Members := List (String × Node)

mutual

/-- The value that a node stands for. -/
def Node.toJson : Node → Json
  | .value j => j
  | .table _ members => .obj (membersJson members)
  | .tables earlier last => .arr (tablesJson earlier ++ [.obj (membersJson last)])

/-- The values that members stand for. -/
def membersJson : List (String × Node) → List (String × Json)
  | [] => []
  | (key, node) :: rest => (key, node.toJson) :: membersJson rest

/-- The values that tables stand for. -/
def tablesJson : List (List (String × Node)) → List Json
  | [] => []
  | members :: rest => .obj (membersJson members) :: tablesJson rest

end

namespace Members

/-- Change what stands at a key, which may be nothing. -/
def alter (key : String) (f : Option Node → Option Node) : Members → Option Members
  | [] => (f none).map fun node => [(key, node)]
  | (k, node) :: rest =>
    if k = key then (f (some node)).map fun node => (k, node) :: rest
    else (alter key f rest).map ((k, node) :: ·)

/-- Give the table at the end of a path its header. -/
def declare (key : String) : (path : List String) → Members → Option Members
  | [], members =>
    alter key (fun
      | none => some (.table .headed [])
      | some (.table .passed inner) => some (.table .headed inner)
      | _ => none) members
  | step :: path, members =>
    alter step (fun
      | none => (declare key path []).map (.table .passed)
      | some (.table kind inner) => (declare key path inner).map (.table kind)
      | some (.tables earlier last) => (declare key path last).map (.tables earlier)
      | some (.value _) => none) members

/-- Add a table to the list at the end of a path. -/
def append (key : String) : (path : List String) → Members → Option Members
  | [], members =>
    alter key (fun
      | none => some (.tables [] [])
      | some (.tables earlier last) => some (.tables (earlier ++ [last]) [])
      | _ => none) members
  | step :: path, members =>
    alter step (fun
      | none => (append key path []).map (.table .passed)
      | some (.table kind inner) => (append key path inner).map (.table kind)
      | some (.tables earlier last) => (append key path last).map (.tables earlier)
      | some (.value _) => none) members

/-- Set the value of a dotted key that has none. -/
def assign (key : String) (node : Node) : (path : List String) → Members → Option Members
  | [], members => alter key (fun old => if old.isNone then some node else none) members
  | step :: path, members =>
    alter step (fun
      | none => (assign key node path []).map (.table .dotted)
      | some (.table kind inner) =>
        if kind = .headed || (path.isEmpty && kind ≠ .dotted) then none
        else (assign key node path inner).map (.table kind)
      | some (.tables earlier last) =>
        if path.isEmpty then none else (assign key node path last).map (.tables earlier)
      | some (.value _) => none) members

/-- Change the table that the last header led to. -/
def within (f : Members → Option Members) : (path : List String) → Members → Option Members
  | [], members => f members
  | step :: path, members =>
    alter step (fun
      | some (.table kind inner) => (within f path inner).map (.table kind)
      | some (.tables earlier last) => (within f path last).map (.tables earlier)
      | _ => none) members

end Members

end BrowserGrid.Toml
