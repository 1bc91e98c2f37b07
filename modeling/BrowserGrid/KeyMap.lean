/-!
# Maps keyed by text, in key order

A `KeyMap α` is a list of entries whose keys strictly ascend, so equal maps have equal entries and
every traversal visits the keys in the order in which they are written out.  The view of a map is
`get?`; the main statements say what `insert` and `erase` do to it (`get?_insert`, `get?_erase`).
-/

namespace BrowserGrid

/-- Entries in strictly ascending key order. -/
structure KeyMap (α : Type u) where
  /-- The entries. -/
  entries : List (String × α)
  /-- Each key is smaller than every later one. -/
  sorted : entries.Pairwise (fun a b => a.1 < b.1)
  deriving DecidableEq

namespace KeyMap

variable {α : Type u} {β : Type v}

/-! ### The list operations -/

/-- The value at a key of a list of entries: that of the first entry with the key. -/
def lookup (key : String) : List (String × α) → Option α
  | [] => none
  | (k, v) :: rest => if k = key then some v else lookup key rest

/-- Put an entry in its place, in front of the first larger key, replacing an equal one. -/
def insertList (key : String) (value : α) : List (String × α) → List (String × α)
  | [] => [(key, value)]
  | (k, v) :: rest =>
    if key < k then (key, value) :: (k, v) :: rest
    else if k = key then (key, value) :: rest
    else (k, v) :: insertList key value rest

/-- Drop every entry with the key. -/
def eraseList (key : String) : List (String × α) → List (String × α)
  | [] => []
  | (k, v) :: rest => if k = key then eraseList key rest else (k, v) :: eraseList key rest

theorem lt_of_not_lt_of_ne {a b : String} (h : ¬a < b) (hne : b ≠ a) : b < a := by
  have hle : b ≤ a := String.not_lt.1 h
  rcases Decidable.em (b < a) with hlt | hnlt
  · exact hlt
  · exact absurd (String.le_antisymm hle (String.not_lt.1 hnlt)) hne

theorem mem_insertList {key : String} {value : α} {e : String × α} :
    ∀ {entries : List (String × α)}, e ∈ insertList key value entries →
      e = (key, value) ∨ e ∈ entries
  | [], h => by simpa [insertList] using h
  | (k, v) :: rest, h => by
    unfold insertList at h
    split at h
    · simpa using h
    · split at h
      · rcases List.mem_cons.1 h with h | h
        · exact .inl h
        · exact .inr (List.mem_cons_of_mem _ h)
      · rcases List.mem_cons.1 h with h | h
        · exact .inr (h ▸ List.mem_cons_self)
        · exact (mem_insertList h).imp id (List.mem_cons_of_mem _)

theorem pairwise_insertList (key : String) (value : α) :
    ∀ {entries : List (String × α)}, entries.Pairwise (fun a b => a.1 < b.1) →
      (insertList key value entries).Pairwise (fun a b => a.1 < b.1)
  | [], _ => by simp [insertList]
  | (k, v) :: rest, h => by
    have hcons := List.pairwise_cons.1 h
    unfold insertList
    split
    · rename_i hlt
      refine List.pairwise_cons.2 ⟨fun e he => ?_, h⟩
      rcases List.mem_cons.1 he with rfl | he
      · exact hlt
      · exact String.lt_trans hlt (hcons.1 e he)
    · split
      · rename_i heq
        exact List.pairwise_cons.2 ⟨fun e he => heq ▸ hcons.1 e he, hcons.2⟩
      · rename_i hnlt hne
        refine List.pairwise_cons.2 ⟨fun e he => ?_, pairwise_insertList key value hcons.2⟩
        rcases mem_insertList he with rfl | he
        · exact lt_of_not_lt_of_ne hnlt hne
        · exact hcons.1 e he

theorem eraseList_sublist (key : String) :
    ∀ entries : List (String × α), (eraseList key entries).Sublist entries
  | [] => .slnil
  | (k, v) :: rest => by
    unfold eraseList
    split
    · exact (eraseList_sublist key rest).cons _
    · exact (eraseList_sublist key rest).cons_cons _

theorem pairwise_eraseList (key : String) {entries : List (String × α)}
    (h : entries.Pairwise (fun a b => a.1 < b.1)) :
    (eraseList key entries).Pairwise (fun a b => a.1 < b.1) :=
  h.sublist (eraseList_sublist key entries)

/-! ### The map -/

/-- The map without entries. -/
def empty : KeyMap α := ⟨[], .nil⟩

instance : EmptyCollection (KeyMap α) := ⟨empty⟩
instance : Inhabited (KeyMap α) := ⟨empty⟩

/-- The value at a key. -/
def get? (m : KeyMap α) (key : String) : Option α := lookup key m.entries

/-- Whether the key has a value. -/
def contains (m : KeyMap α) (key : String) : Bool := (m.get? key).isSome

/-- Set the value at a key. -/
def insert (m : KeyMap α) (key : String) (value : α) : KeyMap α :=
  ⟨insertList key value m.entries, pairwise_insertList key value m.sorted⟩

/-- Remove a key. -/
def erase (m : KeyMap α) (key : String) : KeyMap α :=
  ⟨eraseList key m.entries, pairwise_eraseList key m.sorted⟩

/-- Set the value at a key that has none. -/
def insertNew (m : KeyMap α) (key : String) (value : α) : KeyMap α :=
  if m.contains key then m else m.insert key value

/-- The map of a list of entries; of two entries with one key the later counts. -/
def ofList (entries : List (String × α)) : KeyMap α :=
  entries.foldl (fun m e => m.insert e.1 e.2) empty

/-- The map of one entry. -/
def singleton (key : String) (value : α) : KeyMap α := empty.insert key value

/-- The keys in ascending order. -/
def keys (m : KeyMap α) : List String := m.entries.map (·.1)

/-- The values in the order of their keys. -/
def values (m : KeyMap α) : List α := m.entries.map (·.2)

/-- The number of keys. -/
def size (m : KeyMap α) : Nat := m.entries.length

/-- Whether no key has a value. -/
def isEmpty (m : KeyMap α) : Bool := m.entries.isEmpty

/-- Apply a function to every value. -/
def map (f : α → β) (m : KeyMap α) : KeyMap β :=
  ⟨m.entries.map (fun e => (e.1, f e.2)), by
    simpa [List.pairwise_map] using m.sorted⟩

/-- Change the value at a key, if it has one. -/
def modify (m : KeyMap α) (key : String) (f : α → α) : KeyMap α :=
  match m.get? key with
  | some v => m.insert key (f v)
  | none => m

/-- Keep the entries that satisfy a test. -/
def filter (p : String → α → Bool) (m : KeyMap α) : KeyMap α :=
  ⟨m.entries.filter (fun e => p e.1 e.2), m.sorted.filter _⟩

/-! ### What the operations do to `get?` -/

theorem lookup_insertList (key k : String) (value : α) :
    ∀ {entries : List (String × α)}, entries.Pairwise (fun a b => a.1 < b.1) →
      lookup k (insertList key value entries) =
        if k = key then some value else lookup k entries
  | [], _ => by
    by_cases h : k = key
    · simp [insertList, lookup, h]
    · simp [insertList, lookup, h, Ne.symm h]
  | (k', v') :: rest, hs => by
    have hcons := List.pairwise_cons.1 hs
    unfold insertList
    split
    · by_cases h : k = key
      · simp [lookup, h]
      · simp [lookup, h, Ne.symm h]
    · split
      · rename_i heq
        by_cases h : k = key
        · simp [lookup, h]
        · have h' : ¬k' = k := fun e => h (e ▸ heq)
          simp [lookup, h, Ne.symm h, h']
      · rename_i hne
        have ih := lookup_insertList key k value hcons.2
        by_cases h : k' = k
        · have hk : ¬k = key := fun e => hne (h.trans e)
          simp [lookup, h, hk]
        · simp [lookup, h, ih]

theorem lookup_eraseList (key k : String) :
    ∀ entries : List (String × α),
      lookup k (eraseList key entries) = if k = key then none else lookup k entries
  | [] => by simp [eraseList, lookup]
  | (k', v') :: rest => by
    have ih := lookup_eraseList key k rest
    by_cases hk : k' = key <;> by_cases h : k' = k <;>
      by_cases hkk : k = key <;> simp_all [eraseList, lookup]

@[simp] theorem get?_empty (k : String) : (empty : KeyMap α).get? k = none := rfl

theorem get?_insert (m : KeyMap α) (key k : String) (value : α) :
    (m.insert key value).get? k = if k = key then some value else m.get? k :=
  lookup_insertList key k value m.sorted

theorem get?_erase (m : KeyMap α) (key k : String) :
    (m.erase key).get? k = if k = key then none else m.get? k :=
  lookup_eraseList key k m.entries

theorem lookup_eq_some_iff {key : String} {value : α} :
    ∀ {entries : List (String × α)}, entries.Pairwise (fun a b => a.1 < b.1) →
      (lookup key entries = some value ↔ (key, value) ∈ entries)
  | [], _ => by simp [lookup]
  | (k, v) :: rest, hs => by
    have hcons := List.pairwise_cons.1 hs
    have ih : lookup key rest = some value ↔ (key, value) ∈ rest := lookup_eq_some_iff hcons.2
    unfold lookup
    split
    · rename_i heq
      subst heq
      have hrest : (k, value) ∉ rest := fun hmem =>
        absurd (hcons.1 _ hmem) (String.lt_irrefl k)
      simp [hrest, eq_comm]
    · rename_i hne
      simp [ih, Ne.symm hne]

theorem get?_eq_some_iff {m : KeyMap α} {key : String} {value : α} :
    m.get? key = some value ↔ (key, value) ∈ m.entries :=
  lookup_eq_some_iff m.sorted

end KeyMap

end BrowserGrid
