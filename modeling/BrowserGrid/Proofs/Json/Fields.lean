import BrowserGrid.Json.Record
import BrowserGrid.Proofs.KeyMap

/-!
# Records that are written and read

Two things are said of a reader of fields, one rule for each kind of field and one for `bind`:

* it finds what was written (`Reads`), so a record is read back from its own object
  (`read?_write`);
* what it finds in any value stands there in its place, under the name of the field in an object and
  at its position in a list (`field?`), which is what the rules about `sourceOf` are for.
-/

namespace BrowserGrid.Json

variable {α β : Type}

/-! ### Lists and maps of texts -/

/-- A list of which every item is read back is read back. -/
theorem mapM_map {write : α → β} {read : β → Option α} {xs : List α}
    (h : ∀ x ∈ xs, read (write x) = some x) : (xs.map write).mapM read = some xs := by
  induction xs with
  | nil => rfl
  | cons x xs ih =>
    rw [List.map_cons, List.mapM_cons, h x List.mem_cons_self,
      ih fun y hy => h y (List.mem_cons_of_mem _ hy)]
    rfl

/-- A list is read item by item. -/
theorem map_of_mapM {γ : Type} {read : β → Option α} {items : List β} {xs : List α}
    (h : items.mapM read = some xs) {f : α → γ} {g : β → γ}
    (heq : ∀ i x, read i = some x → f x = g i) : xs.map f = items.map g := by
  induction items generalizing xs with
  | nil =>
    cases h
    rfl
  | cons i items ih =>
    rw [List.mapM_cons] at h
    obtain ⟨y, hy, h⟩ := Option.bind_eq_some_iff.1 h
    obtain ⟨ys, hys, h⟩ := Option.bind_eq_some_iff.1 h
    cases h
    rw [List.map_cons, List.map_cons, heq i y hy, ih hys]

theorem exists_of_mem_mapM {read : β → Option α} {items : List β} {xs : List α}
    (h : items.mapM read = some xs) {x : α} (hx : x ∈ xs) : ∃ i ∈ items, read i = some x := by
  have hmap : xs.map some = items.map read := map_of_mapM h fun _ _ hread => hread.symm
  have hmem : some x ∈ items.map read := hmap ▸ List.mem_map_of_mem hx
  exact List.mem_map.1 hmem

theorem list?_arr {write : α → Json} {read : Json → Option α} {xs : List α}
    (h : ∀ x ∈ xs, read (write x) = some x) : list? read (.arr (xs.map write)) = some xs :=
  mapM_map h

theorem textMap?_ofTextMap (m : KeyMap String) : textMap? (ofTextMap m) = some m := by
  have hentries : (m.entries.map fun e => (e.1, Json.str e.2)).mapM
      (fun e => do return (e.1, ← text? e.2)) = some m.entries :=
    mapM_map fun _ _ => rfl
  unfold textMap? ofTextMap map?
  dsimp only
  rw [hentries]
  exact congrArg some m.ofList_entries

namespace Record

/-! ### Reading what was written -/

/-- The members of the fields that are present. -/
def present (fields : List (String × Option Json)) : List (String × Json) :=
  fields.filterMap fun (name, value) => value.map (name, ·)

/-- No two fields have one name. -/
def Distinct (fields : List (String × Option Json)) : Prop := (fields.map (·.1)).Nodup

/-- A reader finds a value in the fields that were written. -/
def Reads (fields : List (String × Option Json)) (reader : Reader α) (a : α) : Prop :=
  reader (.named (present fields)) = some (a, .named (present fields))

variable {fields : List (String × Option Json)} {name : String}

theorem filter_present (hfields : Distinct fields) {value : Option Json}
    (h : (name, value) ∈ fields) :
    (present fields).filter (·.1 = name) = (value.map (name, ·)).toList := by
  induction fields with
  | nil => nomatch h
  | cons field fields ih =>
    obtain ⟨other, content⟩ := field
    obtain ⟨hnew, hrest⟩ := List.nodup_cons.1 hfields
    have hcons : present ((other, content) :: fields) =
        (content.map (other, ·)).toList ++ present fields := by
      cases content <;> rfl
    rw [hcons, List.filter_append]
    rcases List.mem_cons.1 h with heq | h
    -- no later field has the name of the first one
    · obtain ⟨rfl, rfl⟩ := Prod.mk.inj heq
      have hnone : (present fields).filter (·.1 = name) = [] := by
        refine List.filter_eq_nil_iff.2 fun e he hname => hnew ?_
        obtain ⟨field, hmem, hfield⟩ := List.mem_filterMap.1 he
        obtain ⟨j, -, rfl⟩ := Option.map_eq_some_iff.1 hfield
        exact List.mem_map.2 ⟨field, hmem, of_decide_eq_true hname⟩
      rw [hnone, List.append_nil]
      cases value <;> simp
    · have hne : other ≠ name := by
        rintro rfl
        exact hnew (List.mem_map.2 ⟨(other, value), h, rfl⟩)
      rw [ih hrest h]
      cases content <;> simp [hne]

theorem Distinct.take (hfields : Distinct fields) {value : Option Json}
    (h : (name, value) ∈ fields) : Reads fields (Record.take name) value := by
  have hfilter := filter_present hfields h
  unfold Reads Record.take
  cases value with
  | none => simp [hfilter]
  | some j => simp [hfilter]

namespace Reads

theorem pure (a : α) : Reads fields (pure a) a := rfl

theorem bind {x : Reader α} {f : α → Reader β} {a : α} {b : β} (hx : Reads fields x a)
    (hf : Reads fields (f a) b) : Reads fields (x >>= f) b := by
  show (x (.named (present fields))).bind _ = _
  rw [hx]
  exact hf

end Reads

namespace Distinct

theorem required (hfields : Distinct fields) (j : Json) {read : Json → Option α} {a : α}
    (h : (name, some j) ∈ fields) (hread : read j = some a) :
    Reads fields (required name read) a := by
  refine (hfields.take h).bind ?_
  show (read j).bind _ = _
  rw [hread]
  rfl

theorem defaulted (hfields : Distinct fields) (value : Option Json) {read : Json → Option α}
    {default a : α} (h : (name, value) ∈ fields) (habsent : value = none → a = default)
    (hread : ∀ j, value = some j → read j = some a) :
    Reads fields (defaulted name default read) a := by
  refine (hfields.take h).bind ?_
  cases value with
  | none => exact habsent rfl ▸ Reads.pure a
  | some j =>
    show (read j).bind _ = _
    rw [hread j rfl]
    rfl

/-- A field that is always written, though it may be missing. -/
theorem written (hfields : Distinct fields) (j : Json) {read : Json → Option α} {default a : α}
    (h : (name, some j) ∈ fields) (hread : read j = some a) :
    Reads fields (Record.defaulted name default read) a :=
  hfields.defaulted (some j) h nofun fun _ hj => Option.some.inj hj ▸ hread

/-- A field that is left out where there is no value. -/
theorem optional (hfields : Distinct fields) (value : Option α) (write : α → Json)
    {read : Json → Option α} (h : (name, value.map write) ∈ fields)
    (hread : ∀ a, value = some a → optional? read (write a) = some (some a)) :
    Reads fields (optional name read) value := by
  refine hfields.defaulted _ h (fun hnone => ?_) fun j hj => ?_
  · exact Option.map_eq_none_iff.1 hnone
  · obtain ⟨a, rfl, rfl⟩ := Option.map_eq_some_iff.1 hj
    exact hread a rfl

theorem optionalText (hfields : Distinct fields) (value : Option String)
    (h : (name, Record.text? value) ∈ fields) : Reads fields (Record.optional name Json.text?) value :=
  hfields.optional value .str h fun _ _ => rfl

/-- A map of texts that is left out where it is empty. -/
theorem texts (hfields : Distinct fields) (m : KeyMap String) (h : (name, texts? m) ∈ fields) :
    Reads fields (Record.defaulted name KeyMap.empty textMap?) m := by
  refine hfields.defaulted _ h (fun hnone => ?_) fun j hj => ?_
  · unfold texts? at hnone
    split at hnone
    · rename_i hempty
      exact KeyMap.ext_entries (List.isEmpty_iff.1 hempty)
    · cases hnone
  · unfold texts? at hj
    split at hj
    · cases hj
    · cases hj
      exact textMap?_ofTextMap m

/-- A list that is left out where it is empty. -/
theorem list (hfields : Distinct fields) (xs : List α) (write : α → Json)
    {read : Json → Option α} (h : (name, unlessEmpty (xs.map write)) ∈ fields)
    (hread : ∀ x ∈ xs, read (write x) = some x) :
    Reads fields (Record.defaulted name [] (list? read)) xs := by
  refine hfields.defaulted _ h (fun hnone => ?_) fun j hj => ?_
  · unfold unlessEmpty at hnone
    split at hnone
    · rename_i hempty
      exact List.map_eq_nil_iff.1 (List.isEmpty_iff.1 hempty)
    · cases hnone
  · unfold unlessEmpty at hj
    split at hj
    · cases hj
    · cases hj
      exact list?_arr hread

end Distinct

/-- A record is read back from the object of its fields. -/
theorem read?_write {reader : Reader α} {a : α} (hfields : Distinct fields)
    (h : Distinct fields → Reads fields reader a) : read? reader (write fields) = some a := by
  show (reader (.named (present fields))).map _ = _
  rw [h hfields]
  rfl

/-! ### Where a value was found -/

/-- The value of a field: by its name in an object, by its position in a list. -/
def field? (name : String) (position : Nat) : Json → Option Json
  | .obj members => KeyMap.lookup name members
  | .arr items => items[position]?
  | _ => none

/-- What is still to be read of a value when some fields have been read. -/
def sourceOf (position : Nat) : Json → Source
  | .obj members => .named members
  | .arr items => .listed (items.drop position)
  | _ => .listed []

variable {v : Json} {position : Nat} {source : Source}

theorem exists_of_read? {reader : Reader α} {a : α} (h : read? reader v = some a) :
    ∃ source, reader (sourceOf 0 v) = some (a, source) := by
  unfold read? at h
  split at h
  · obtain ⟨⟨b, source⟩, hrun, rfl⟩ := Option.map_eq_some_iff.1 h
    exact ⟨source, hrun⟩
  · split at h
    · rename_i hrun
      cases h
      exact ⟨_, hrun⟩
    · cases h
  · cases h

theorem exists_of_bind {x : Reader α} {f : α → Reader β} {b : β} {source' : Source}
    (h : (x >>= f) source = some (b, source')) :
    ∃ a source'', x source = some (a, source'') ∧ f a source'' = some (b, source') := by
  obtain ⟨⟨a, source''⟩, hx, hf⟩ := Option.bind_eq_some_iff.1 h
  exact ⟨a, source'', hx, hf⟩

theorem lookup_eq_of_filter {members : List (String × Json)} {name : String} :
    KeyMap.lookup name members = (members.filter (·.1 = name)).head?.map (·.2) := by
  induction members with
  | nil => rfl
  | cons member members ih =>
    obtain ⟨k, j⟩ := member
    unfold KeyMap.lookup
    by_cases hk : k = name
    · rw [if_pos hk, List.filter_cons_of_pos (by simpa using hk)]
      rfl
    · rw [if_neg hk, ih, List.filter_cons_of_neg (by simpa using hk)]

theorem take_sourceOf {value : Option Json}
    (h : take name (sourceOf position v) = some (value, source)) :
    value = field? name position v ∧ source = sourceOf (position + 1) v := by
  cases v with
  | obj members =>
    unfold take sourceOf at h
    dsimp only at h
    split at h
    · rename_i hfilter
      cases h
      rw [field?, lookup_eq_of_filter, hfilter]
      exact ⟨rfl, rfl⟩
    · rename_i hfilter
      cases h
      rw [field?, lookup_eq_of_filter, hfilter]
      exact ⟨rfl, rfl⟩
    · cases h
  | arr items =>
    unfold sourceOf at h
    dsimp only at h
    rw [field?, sourceOf, ← List.head?_drop, ← List.tail_drop]
    cases hdrop : items.drop position with
    | nil =>
      rw [hdrop] at h
      cases h
      exact ⟨rfl, rfl⟩
    | cons item rest =>
      rw [hdrop] at h
      cases h
      exact ⟨rfl, rfl⟩
  | null | bool | num | str =>
    cases h
    exact ⟨rfl, rfl⟩

theorem exists_of_required {read : Json → Option α} {f : α → Reader β} {b : β}
    (h : (required name read >>= f) (sourceOf position v) = some (b, source)) :
    ∃ a, (∃ j, field? name position v = some j ∧ read j = some a) ∧
      f a (sourceOf (position + 1) v) = some (b, source) := by
  obtain ⟨a, _, hrequired, h⟩ := exists_of_bind h
  obtain ⟨value, _, htake, hread⟩ := exists_of_bind hrequired
  obtain ⟨rfl, rfl⟩ := take_sourceOf htake
  cases hfield : field? name position v with
  | none =>
    rw [hfield] at hread
    cases hread
  | some j =>
    rw [hfield] at hread
    obtain ⟨c, hj, hc⟩ := Option.bind_eq_some_iff.1 hread
    cases hc
    exact ⟨a, ⟨j, rfl, hj⟩, h⟩

/-- The value `a` of a field that may be missing: the default if `value` is, else what `read` makes
of it. -/
def Found (default : α) (read : Json → Option α) (value : Option Json) (a : α) : Prop :=
  match value with
  | none => a = default
  | some j => read j = some a

theorem exists_of_defaulted {read : Json → Option α} {default : α} {f : α → Reader β} {b : β}
    (h : (defaulted name default read >>= f) (sourceOf position v) = some (b, source)) :
    ∃ a, Found default read (field? name position v) a ∧
      f a (sourceOf (position + 1) v) = some (b, source) := by
  obtain ⟨a, _, hdefaulted, h⟩ := exists_of_bind h
  obtain ⟨value, _, htake, hread⟩ := exists_of_bind hdefaulted
  obtain ⟨rfl, rfl⟩ := take_sourceOf htake
  cases hfield : field? name position v with
  | none =>
    rw [hfield] at hread
    cases hread
    exact ⟨default, rfl, h⟩
  | some j =>
    rw [hfield] at hread
    obtain ⟨c, hj, hc⟩ := Option.bind_eq_some_iff.1 hread
    cases hc
    exact ⟨a, hj, h⟩

/-- The items of a list that was found have been read. -/
theorem Found.mapM_items {read : Json → Option α} {value : Option Json} {xs : List α}
    (h : Found [] (list? read) value xs) : ((value.bind items?).getD []).mapM read = some xs := by
  cases value with
  | none =>
    have hnil : xs = [] := h
    rw [hnil]
    rfl
  | some j =>
    obtain ⟨items, hitems, hread⟩ := Option.bind_eq_some_iff.1 h
    rw [Option.bind_some, hitems]
    exact hread

/-! ### A field of an object -/

theorem required_of_filter {members : List (String × Json)} {j : Json} {read : Json → Option α}
    {a : α} (hfilter : members.filter (·.1 = name) = [(name, j)]) (hread : read j = some a) :
    required name read (.named members) = some (a, .named members) := by
  have htake : take name (.named members) = some (some j, .named members) := by
    unfold take
    simp [hfilter]
  show (take name (.named members)).bind _ = _
  rw [htake]
  show (read j).bind _ = _
  rw [hread]
  rfl

/-- A field that must be there stands once in an object. -/
theorem filter_of_required {members : List (String × Json)} {read : Json → Option α} {a : α}
    (h : required name read (.named members) = some (a, source)) :
    ∃ j, members.filter (·.1 = name) = [(name, j)] ∧ read j = some a := by
  obtain ⟨value, _, htake, h⟩ := exists_of_bind h
  unfold take at htake
  dsimp only at htake
  split at htake
  · cases htake
    cases h
  · rename_i member hfilter
    cases htake
    obtain ⟨b, hread, hb⟩ := Option.bind_eq_some_iff.1 h
    cases hb
    have hmem : member ∈ members.filter (·.1 = name) := hfilter ▸ List.mem_cons_self
    have hname : member.1 = name := of_decide_eq_true (List.mem_filter.1 hmem).2
    exact ⟨member.2, by rw [hfilter, ← hname], hread⟩
  · cases htake

end Record

end BrowserGrid.Json
