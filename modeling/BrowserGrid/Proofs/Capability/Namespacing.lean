import BrowserGrid.Proofs.Capability.Matching
import Mathlib.Data.List.Nodup

/-!
# The namespace of the custom keys

Moving the custom keys under their prefix takes each plain one away, and the value that stands under
the prefix is the one that stood there before or else the plain one (`get?_namespaced_plain`,
`get?_namespaced_prefixed`).  So a second move finds nothing to do (`namespaced_namespaced`).

A null under the prefix counts as a value when keys are moved and as none when they are read: the
plain value beside it is read before the move and lost by it (`custom?_namespaced`).
-/

namespace BrowserGrid.Capabilities

theorem prefixed_injective : Function.Injective prefixed := by
  intro key key' h
  have hlist := congrArg String.toList h
  simp only [prefixed, String.toList_append] at hlist
  exact String.toList_injective (List.append_cancel_left hlist)

theorem prefixed_ne (key : String) : prefixed key ≠ key := by
  intro h
  have hlength := congrArg String.length h
  rw [prefixed, String.length_append] at hlength
  have hprefix : customPrefix.length = 4 := rfl
  omega

/-! ### Moving one key -/

theorem moveKey_of_absent {c : Capabilities} {key : String} (h : c.get? key = none) :
    c.moveKey key = c := by
  rw [moveKey, h]

theorem get?_moveKey_plain (c : Capabilities) (key : String) : (c.moveKey key).get? key = none := by
  unfold moveKey
  split
  · assumption
  · rename_i value _
    show ((c.values.erase key).insertNew (prefixed key) value).get? key = none
    have herased : (c.values.erase key).get? key = none := by rw [KeyMap.get?_erase, if_pos rfl]
    unfold KeyMap.insertNew
    split
    · exact herased
    · rw [KeyMap.get?_insert, if_neg (prefixed_ne key).symm, herased]

theorem get?_moveKey_prefixed (c : Capabilities) (key : String) :
    (c.moveKey key).get? (prefixed key) = (c.get? (prefixed key)).or (c.get? key) := by
  unfold moveKey
  split
  · rename_i hnone
    rw [hnone, Option.or_none]
  · rename_i value hvalue
    show ((c.values.erase key).insertNew (prefixed key) value).get? (prefixed key) = _
    have hkept : (c.values.erase key).get? (prefixed key) = c.get? (prefixed key) := by
      rw [KeyMap.get?_erase, if_neg (prefixed_ne key)]
      rfl
    unfold KeyMap.insertNew KeyMap.contains
    rw [hkept, hvalue]
    cases hprefixed : c.get? (prefixed key) with
    | none => rw [if_neg (by simp), KeyMap.get?_insert, if_pos rfl, Option.none_or]
    | some other => rw [if_pos (by simp), hkept, hprefixed, Option.some_or]

/-! ### Moving all of them -/

/-- No name of the list is one under the prefix. -/
def Plain (keys : List String) : Prop := ∀ key ∈ keys, ∀ other ∈ keys, key ≠ prefixed other

theorem resolutionKeys_subset : resolutionKeys ⊆ customKeys := by decide

theorem plain_customKeys : Plain customKeys := by
  unfold Plain
  decide

theorem foldl_moveKey_of_absent {c : Capabilities} {keys : List String}
    (h : ∀ key ∈ keys, c.get? key = none) : keys.foldl moveKey c = c := by
  induction keys with
  | nil => rfl
  | cons key keys ih =>
    rw [List.foldl_cons, moveKey_of_absent (h key List.mem_cons_self)]
    exact ih fun other hother => h other (List.mem_cons_of_mem _ hother)

/-- A key is moved once, and the moves before and after it do not touch it. -/
theorem get?_foldl_moveKey_of_mem {keys : List String} (hnodup : keys.Nodup) (hplain : Plain keys)
    {key : String} (hkey : key ∈ keys) (c : Capabilities) :
    (keys.foldl moveKey c).get? key = none ∧
      (keys.foldl moveKey c).get? (prefixed key) = (c.get? (prefixed key)).or (c.get? key) := by
  induction keys generalizing c with
  | nil => cases hkey
  | cons first keys ih =>
    obtain ⟨hfresh, hnodup⟩ := List.nodup_cons.1 hnodup
    have hrest : Plain keys := fun k hk other hother =>
      hplain k (List.mem_cons_of_mem _ hk) other (List.mem_cons_of_mem _ hother)
    rw [List.foldl_cons]
    rcases List.mem_cons.1 hkey with rfl | hmem
    · have hother : ∀ other ∈ keys, key ≠ other ∧ key ≠ prefixed other := fun other hother =>
        ⟨fun heq => hfresh (heq ▸ hother),
          hplain key List.mem_cons_self other (List.mem_cons_of_mem _ hother)⟩
      have hother' : ∀ other ∈ keys, prefixed key ≠ other ∧ prefixed key ≠ prefixed other :=
        fun other hmem =>
          ⟨(hplain other (List.mem_cons_of_mem _ hmem) key List.mem_cons_self).symm,
            fun heq => (hother other hmem).1 (prefixed_injective heq)⟩
      rw [get?_foldl_moveKey hother, get?_foldl_moveKey hother', get?_moveKey_plain,
        get?_moveKey_prefixed]
      exact ⟨rfl, rfl⟩
    · have hne : key ≠ first := fun heq => hfresh (heq ▸ hmem)
      have hkept : (c.moveKey first).get? key = c.get? key :=
        get?_moveKey hne (hplain key hkey first List.mem_cons_self) c
      have hkept' : (c.moveKey first).get? (prefixed key) = c.get? (prefixed key) :=
        get?_moveKey (hplain first List.mem_cons_self key hkey).symm
          (fun heq => hne (prefixed_injective heq)) c
      rw [← hkept, ← hkept']
      exact ih hnodup hrest hmem _

variable {key : String}

theorem get?_namespaced_plain (hkey : key ∈ customKeys) (c : Capabilities) :
    c.namespaced.get? key = none :=
  (get?_foldl_moveKey_of_mem (by decide) plain_customKeys hkey c).1

theorem get?_namespaced_prefixed (hkey : key ∈ customKeys) (c : Capabilities) :
    c.namespaced.get? (prefixed key) = (c.get? (prefixed key)).or (c.get? key) :=
  (get?_foldl_moveKey_of_mem (by decide) plain_customKeys hkey c).2

/-- Where every custom key stands under its prefix, nothing is moved. -/
theorem namespaced_of_absent {c : Capabilities} (h : ∀ key ∈ customKeys, c.get? key = none) :
    c.namespaced = c :=
  foldl_moveKey_of_absent h

@[simp] theorem namespaced_namespaced (c : Capabilities) :
    c.namespaced.namespaced = c.namespaced :=
  namespaced_of_absent fun _ hkey => get?_namespaced_plain hkey c

/-- After the move a key is read under its prefix alone. -/
theorem custom?_namespaced (hkey : key ∈ customKeys) (c : Capabilities) :
    c.namespaced.custom? key = ((c.get? (prefixed key)).or (c.get? key)).bind valueText? := by
  have hplain : c.namespaced.text? key = none := by
    rw [text?, get?_namespaced_plain hkey, Option.bind_none]
  rw [custom?, hplain, Option.or_none, text?, get?_namespaced_prefixed hkey]

end BrowserGrid.Capabilities
