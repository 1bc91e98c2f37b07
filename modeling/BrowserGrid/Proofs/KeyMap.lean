import BrowserGrid.KeyMap
import Mathlib.Data.List.Induction
import Mathlib.Data.List.Perm.Basic

/-!
# Maps by their values and by their entries

A map is determined by what it holds under each key (`ext_get?`), and it is made of its entries
again (`ofList_entries`).
-/

namespace BrowserGrid.KeyMap

variable {α : Type}

/-! ### Equal maps -/

theorem ext_entries {m m' : KeyMap α} (h : m.entries = m'.entries) : m = m' := by
  cases m
  cases m'
  cases h
  rfl

theorem ext_get? {m m' : KeyMap α} (h : ∀ key, m.get? key = m'.get? key) :
    m = m' := by
  have hmem : ∀ e, e ∈ m.entries ↔ e ∈ m'.entries := fun e => by
    rw [← get?_eq_some_iff, ← get?_eq_some_iff, h]
  have hnodup : ∀ m : KeyMap α, m.entries.Nodup := fun m =>
    m.sorted.imp fun {a b} (hlt : a.1 < b.1) (heq : a = b) => String.lt_irrefl b.1 (heq ▸ hlt)
  have hperm : m.entries.Perm m'.entries :=
    (List.perm_ext_iff_of_nodup (hnodup m) (hnodup m')).2 hmem
  -- the keys ascend in both, so they are in one order
  refine ext_entries (hperm.eq_of_pairwise (fun _ _ _ _ hab hba => ?_) m.sorted m'.sorted)
  exact absurd (String.lt_trans hab hba) (String.lt_irrefl _)

/-! ### New entries -/

/-- A larger key goes to the end. -/
theorem insertList_of_lt {key : String} {entries : List (String × α)} (value : α)
    (h : ∀ e ∈ entries, e.1 < key) : insertList key value entries = entries ++ [(key, value)] := by
  induction entries with
  | nil => rfl
  | cons e entries ih =>
    obtain ⟨k, v⟩ := e
    have hlt : k < key := h (k, v) List.mem_cons_self
    have hnlt : ¬key < k := fun hgt => String.lt_irrefl k (String.lt_trans hlt hgt)
    have hne : k ≠ key := fun heq => String.lt_irrefl key (heq ▸ hlt)
    rw [insertList, if_neg hnlt, if_neg hne, ih fun e he => h e (List.mem_cons_of_mem _ he)]
    rfl

/-- A smaller key goes to the front. -/
theorem insertList_of_gt {key : String} {entries : List (String × α)} (value : α)
    (h : ∀ e ∈ entries, key < e.1) : insertList key value entries = (key, value) :: entries := by
  cases entries with
  | nil => rfl
  | cons e entries => exact if_pos (h e List.mem_cons_self)

theorem entries_ofList {entries : List (String × α)}
    (h : entries.Pairwise fun a b => a.1 < b.1) : (ofList entries).entries = entries := by
  induction entries using List.reverseRecOn with
  | nil => rfl
  | append_singleton entries e ih =>
    obtain ⟨hfront, -, hlast⟩ := List.pairwise_append.1 h
    have hinsert : (ofList (entries ++ [e])).entries =
        insertList e.1 e.2 (ofList entries).entries := by
      rw [ofList, List.foldl_concat]
      rfl
    rw [hinsert, ih hfront]
    exact insertList_of_lt e.2 fun a ha => hlast a ha e (List.mem_singleton.2 rfl)

theorem ofList_entries (m : KeyMap α) : ofList m.entries = m :=
  ext_entries (entries_ofList m.sorted)

theorem get?_insertNew (m : KeyMap α) (key k : String) (value : α) :
    (m.insertNew key value).get? k = if k = key then (m.get? k).or (some value) else m.get? k := by
  unfold insertNew contains
  by_cases hk : k = key
  · obtain rfl := hk
    cases hget : m.get? k with
    | some v => simp [hget]
    | none => simp [get?_insert]
  · rw [if_neg hk]
    split
    · rfl
    · rw [get?_insert, if_neg hk]

theorem mem_insertNew {m : KeyMap α} {key : String} {value : α} {e : String × α}
    (h : e ∈ (m.insertNew key value).entries) : e = (key, value) ∨ e ∈ m.entries := by
  unfold insertNew at h
  split at h
  · exact .inr h
  · exact mem_insertList h

end BrowserGrid.KeyMap
