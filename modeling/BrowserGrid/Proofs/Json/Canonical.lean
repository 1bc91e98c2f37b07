import BrowserGrid.Json
import BrowserGrid.Proofs.KeyMap

/-!
# The value of a document

A document that is written in key order, with values in their canonical form, stands for itself
(`canonicalMembers_entries`), and the value of any document is of this kind (`canonical_canonical`).
Under a key it holds what the document has there last (`get?_canonicalMembers`).
-/

namespace BrowserGrid

namespace Json

/-! ### The members of an object -/

/-- Of the members with one key the last one counts. -/
theorem get?_canonicalMembers (members : List (String × Json)) (key : String) :
    (canonicalMembers members).get? key =
      ((members.filter (·.1 = key)).getLast?).map fun e => canonical e.2 := by
  induction members with
  | nil => rfl
  | cons e members ih =>
    obtain ⟨k, j⟩ := e
    rw [canonicalMembers, KeyMap.get?_insertNew, ih]
    by_cases hk : key = k
    · obtain rfl := hk
      rw [if_pos rfl, List.filter_cons_of_pos (by simp), List.getLast?_cons]
      cases (members.filter (·.1 = key)).getLast? <;> rfl
    · rw [if_neg hk, List.filter_cons_of_neg (by simpa using Ne.symm hk)]

/-- Members in key order with canonical values stand for themselves. -/
theorem canonicalMembers_entries {entries : List (String × Json)}
    (hsorted : entries.Pairwise fun a b => a.1 < b.1)
    (hvalues : ∀ e ∈ entries, canonical e.2 = e.2) :
    (canonicalMembers entries).entries = entries := by
  induction entries with
  | nil => rfl
  | cons e entries ih =>
    obtain ⟨k, j⟩ := e
    obtain ⟨hfirst, hrest⟩ := List.pairwise_cons.1 hsorted
    have htail := ih hrest fun e he => hvalues e (List.mem_cons_of_mem _ he)
    -- the key is smaller than all that follow, so it is not among them and goes to the front
    have hnew : (canonicalMembers entries).contains k = false := by
      rw [KeyMap.contains, Option.isSome_eq_false_iff, Option.isNone_iff_eq_none,
        Option.eq_none_iff_forall_ne_some]
      intro v hv
      have hmem := KeyMap.get?_eq_some_iff.1 hv
      rw [htail] at hmem
      exact String.lt_irrefl k (hfirst (k, v) hmem)
    rw [canonicalMembers, KeyMap.insertNew, if_neg (by simp [hnew])]
    show KeyMap.insertList k (canonical j) (canonicalMembers entries).entries = _
    rw [htail, KeyMap.insertList_of_gt _ hfirst, hvalues (k, j) List.mem_cons_self]

theorem canonicalMembers_eq (m : KeyMap Json) (hvalues : ∀ e ∈ m.entries, canonical e.2 = e.2) :
    canonicalMembers m.entries = m :=
  KeyMap.ext_entries (canonicalMembers_entries m.sorted hvalues)

mutual

/-- The value of a document is its own value. -/
theorem canonical_canonical : ∀ j : Json, canonical (canonical j) = canonical j
  | .null | .bool _ | .num _ | .str _ => by simp only [canonical]
  | .arr items => by
    simp only [canonical]
    rw [canonicalItems_canonicalItems items]
  | .obj members => by
    simp only [canonical]
    rw [canonicalMembers_eq _ (canonical_of_mem members)]

theorem canonicalItems_canonicalItems :
    ∀ items : List Json, canonicalItems (canonicalItems items) = canonicalItems items
  | [] => by simp only [canonicalItems]
  | j :: items => by
    simp only [canonicalItems]
    rw [canonical_canonical j, canonicalItems_canonicalItems items]

theorem canonical_of_mem : ∀ members : List (String × Json),
    ∀ e ∈ (canonicalMembers members).entries, canonical e.2 = e.2
  | [], e, he => nomatch he
  | (k, j) :: members, e, he => by
    rw [canonicalMembers] at he
    rcases KeyMap.mem_insertNew he with rfl | he
    · exact canonical_canonical j
    · exact canonical_of_mem members e he

end

end Json

end BrowserGrid
