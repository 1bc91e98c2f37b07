import BrowserGrid.Text.Ascii
import BrowserGrid.Text.Blank
import BrowserGrid.Text.Integer
import Mathlib

/-!
# Spellings of one text

Blanks at the ends and the case of ASCII letters do not tell two names apart.  Trimming twice is
trimming once (`trim_trim`), folding the case leaves the blanks where they are (`trim_lower`), and
the two ways of folding it tell the same names apart (`upper_lower`).  The decimal digits of a
number have no blank among them and read back as that number (`natural?_toString`).
-/

namespace BrowserGrid.Text

/-! ### Blanks at the ends -/

theorem trimRightList_eq (cs : List Char) : trimRightList cs = cs.rdropWhile isBlank := rfl

theorem toList_trim (s : String) : (trim s).toList = trimList s.toList := String.toList_ofList

/-- Dropping the blanks at the end brings no blank to the front. -/
theorem trimLeftList_trimList (cs : List Char) : trimLeftList (trimList cs) = trimList cs := by
  have hfront : trimLeftList (trimLeftList cs) = trimLeftList cs := List.dropWhile_idempotent _ _
  have hprefix : trimList cs <+: trimLeftList cs := List.rdropWhile_prefix _ _
  generalize trimLeftList cs = front at hfront hprefix
  cases htrimmed : trimList cs with
  | nil => rfl
  | cons c rest =>
    obtain ⟨back, hback⟩ := hprefix
    rw [htrimmed, List.cons_append] at hback
    have hc : ¬isBlank c = true := by
      rw [← hback] at hfront
      exact List.dropWhile_eq_self_iff.1 hfront (Nat.succ_pos _)
    exact List.dropWhile_cons_of_neg hc

theorem trimList_trimList (cs : List Char) : trimList (trimList cs) = trimList cs := by
  have hback : trimRightList (trimList cs) = trimList cs := List.rdropWhile_idempotent _ _
  rw [trimList, trimLeftList_trimList, hback]

theorem trimList_infix (cs : List Char) : trimList cs <:+: cs :=
  (List.rdropWhile_prefix _ _).isInfix.trans (List.dropWhile_suffix _).isInfix

/-- Trimmed texts side by side are trimmed: the front of the first and the end of the second stay. -/
theorem trimList_append {front back : List Char} (hne : front ≠ []) (hfront : trimList front = front)
    (hback : trimRightList back = back) : trimList (front ++ back) = front ++ back := by
  have hleft : trimLeftList front = front := hfront ▸ trimLeftList_trimList front
  have hright : trimRightList front = front := hfront ▸ List.rdropWhile_idempotent _ _
  have hstart : trimLeftList (front ++ back) = front ++ back := by
    rw [trimLeftList, List.dropWhile_append, ← trimLeftList, hleft, if_neg (by simpa using hne)]
  rw [trimList, hstart, trimRightList_eq]
  refine List.rdropWhile_eq_self_iff.2 fun hall => ?_
  -- the last character is that of the second text, unless this one is empty
  by_cases hempty : back = []
  · subst hempty
    simpa using List.rdropWhile_eq_self_iff.1 hright hne
  · rw [List.getLast_append_of_ne_nil _ hempty]
    exact List.rdropWhile_eq_self_iff.1 hback hempty

@[simp] theorem trim_trim (s : String) : trim (trim s) = trim s := by
  rw [trim, toList_trim, trimList_trimList]
  rfl

/-- A text without a blank has nothing to trim. -/
theorem trim_of_unblank {s : String} (h : ∀ c ∈ s.toList, isBlank c = false) : trim s = s := by
  have hleft : trimLeftList s.toList = s.toList := by
    refine List.dropWhile_eq_self_iff.2 fun hpos => ?_
    simp [h _ (List.getElem_mem hpos)]
  have hright : trimRightList s.toList = s.toList := by
    rw [trimRightList_eq]
    refine List.rdropWhile_eq_self_iff.2 fun hne => ?_
    simp [h _ (List.getLast_mem hne)]
  rw [trim, trimList, hleft, hright, String.ofList_toList]

theorem trimmed?_eq_some_iff {s t : String} : trimmed? s = some t ↔ trim s = t ∧ t ≠ "" := by
  unfold trimmed?
  dsimp only
  by_cases hempty : trim s = ""
  · rw [if_pos (by simp [hempty])]
    constructor
    · intro h
      cases h
    · rintro ⟨rfl, hne⟩
      exact absurd hempty hne
  · rw [if_neg (by simpa using hempty), Option.some.injEq]
    constructor
    · rintro rfl
      exact ⟨rfl, hempty⟩
    · exact And.left

theorem trim_of_trimmed? {s t : String} (h : trimmed? s = some t) : trim t = t := by
  obtain ⟨rfl, -⟩ := trimmed?_eq_some_iff.1 h
  exact trim_trim s

/-- What is left of a text has nothing to trim. -/
theorem trimmed?_of_trimmed? {s t : String} (h : trimmed? s = some t) : trimmed? t = some t :=
  trimmed?_eq_some_iff.2 ⟨trim_of_trimmed? h, (trimmed?_eq_some_iff.1 h).2⟩

/-! ### The case of letters -/

theorem toNat_toLower (c : Char) :
    c.toLower.toNat = if 65 ≤ c.toNat ∧ c.toNat ≤ 90 then c.toNat + 32 else c.toNat := by
  unfold Char.toLower
  split
  · rename_i hupper
    have hrange : 65 ≤ c.toNat ∧ c.toNat ≤ 90 := hupper
    rw [if_pos hrange]
    show (c.val + ('a'.val - 'A'.val)).toNat = _
    rw [UInt32.toNat_add, show ('a'.val - 'A'.val).toNat = 32 by decide, Char.toNat_val]
    omega
  · rename_i hother
    exact (if_neg hother).symm

/-- No letter is a blank, in either case. -/
theorem isBlank_toLower (c : Char) : isBlank c.toLower = isBlank c := by
  rw [isBlank, isBlank, toNat_toLower]
  split
  · rw [Bool.eq_iff_iff]
    simp [blankRanges]
    omega
  · rfl

@[simp] theorem lower_lower (s : String) : lower (lower s) = lower s := by
  simp [lower, Function.comp_def]

@[simp] theorem upper_lower (s : String) : upper (lower s) = upper s := by
  simp [lower, upper, Function.comp_def]

theorem trimLeftList_map_toLower (cs : List Char) :
    trimLeftList (cs.map Char.toLower) = (trimLeftList cs).map Char.toLower := by
  have hblank : isBlank ∘ Char.toLower = isBlank := funext isBlank_toLower
  rw [trimLeftList, List.dropWhile_map, hblank, trimLeftList]

theorem trimRightList_map_toLower (cs : List Char) :
    trimRightList (cs.map Char.toLower) = (trimRightList cs).map Char.toLower := by
  rw [trimRightList, ← List.map_reverse, trimLeftList_map_toLower, ← List.map_reverse,
    trimRightList]

theorem trim_lower (s : String) : trim (lower s) = lower (trim s) := by
  rw [trim, lower, lower, toList_trim, String.toList_ofList, trimList, trimLeftList_map_toLower,
    trimRightList_map_toLower, trimList]

theorem lower_eq_empty_iff {s : String} : lower s = "" ↔ s = "" := by
  rw [← String.toList_inj, ← String.toList_inj, lower, String.toList_ofList]
  exact List.map_eq_nil_iff

theorem trimmed?_lower (s : String) : trimmed? (lower s) = (trimmed? s).map lower := by
  ext t
  simp only [Option.map_eq_some_iff, trimmed?_eq_some_iff, trim_lower]
  constructor
  · rintro ⟨rfl, hne⟩
    exact ⟨trim s, ⟨rfl, fun hempty => hne (lower_eq_empty_iff.2 hempty)⟩, rfl⟩
  · rintro ⟨_, ⟨rfl, hne⟩, rfl⟩
    exact ⟨rfl, fun hempty => hne (lower_eq_empty_iff.1 hempty)⟩

/-- What is told apart by the lower case is told apart by the upper case. -/
theorem upper_eq_of_lower_eq {s t : String} (h : lower s = lower t) : upper s = upper t := by
  rw [← upper_lower s, h, upper_lower]

/-! ### Numbers -/

theorem isBlank_of_isDigit {c : Char} (h : c.isDigit = true) : isBlank c = false := by
  have hrange : 48 ≤ c.toNat ∧ c.toNat ≤ 57 := Char.isDigit_iff_toNat.1 h
  simp [isBlank, blankRanges]
  omega

theorem digitValue?_digitChar {n : Nat} (h : n < 10) : digitValue? n.digitChar = some n := by
  have hvalue : n.digitChar.toNat = 48 + n := Nat.toNat_digitChar_of_lt_ten h
  have hrange : '0' ≤ n.digitChar ∧ n.digitChar ≤ '9' := by
    simp only [Char.le_def, UInt32.le_iff_toNat_le, Char.toNat_val, hvalue]
    exact ⟨show 48 ≤ 48 + n by omega, show 48 + n ≤ 57 by omega⟩
  rw [digitValue?, if_pos hrange, hvalue]
  simp

theorem decimalValue?_append (cs : List Char) (c : Char) :
    decimalValue? (cs ++ [c]) =
      (decimalValue? cs).bind fun n => (digitValue? c).map (10 * n + ·) := by
  rw [decimalValue?, List.foldl_append, List.foldl_cons, List.foldl_nil, ← decimalValue?]
  cases decimalValue? cs <;> cases digitValue? c <;> rfl

theorem decimalValue?_toDigits (n : Nat) : decimalValue? (Nat.toDigits 10 n) = some n := by
  induction n using Nat.strongRecOn with
  | ind n ih =>
    by_cases hsmall : n < 10
    · rw [Nat.toDigits_of_lt_base hsmall, ← List.nil_append [n.digitChar], decimalValue?_append,
        digitValue?_digitChar hsmall]
      simp [decimalValue?]
    · have hlast : n % 10 < 10 := Nat.mod_lt _ (by decide)
      rw [Nat.toDigits_of_base_le (by decide) (by omega), decimalValue?_append,
        ih (n / 10) (by omega), digitValue?_digitChar hlast]
      simp only [Option.bind_some, Option.map_some, Option.some.injEq]
      omega

theorem toList_toString (n : Nat) : (toString n).toList = Nat.toDigits 10 n := by
  rw [Nat.toString_eq_repr, Nat.toList_repr]

theorem isDigit_of_mem_toString {n : Nat} {c : Char} (h : c ∈ (toString n).toList) :
    c.isDigit = true := by
  rw [toList_toString] at h
  exact Nat.isDigit_of_mem_toDigits (by decide) (by decide) h

/-- A number that is not too large is read back from its digits. -/
theorem natural?_toString {max n : Nat} (h : n ≤ max) : natural? max (toString n) = some n := by
  have hplus : '+' ∉ (toString n).toList := by
    intro hmem
    have hdigit := isDigit_of_mem_toString hmem
    simp at hdigit
  have hdigits : digits? (toString n).toList = some n := by
    rw [toList_toString, digits?, if_neg (by simp [Nat.toDigits_ne_nil]), decimalValue?_toDigits]
  rw [natural?]
  split
  · rename_i rest heq
    rw [heq] at hplus
    exact absurd List.mem_cons_self hplus
  · rw [hdigits]
    simp [h]

theorem le_of_natural? {max n : Nat} {s : String} (h : natural? max s = some n) : n ≤ max := by
  simpa using (Option.filter_eq_some_iff.1 h).2

/-! ### Cutting -/

theorem cutList_eq_none_iff {sep : List Char} (hsep : sep ≠ []) {cs : List Char} :
    cutList sep cs = none ↔ ¬sep <:+: cs := by
  induction cs with
  | nil => simp [cutList, hsep]
  | cons c cs ih =>
    rw [List.infix_cons_iff, not_or, ← ih, cutList]
    split
    · rename_i rest hprefix
      have hcut : sep ++ rest = c :: cs := List.isPrefixOf?_eq_some_iff_append_eq.1 hprefix
      simp [← hcut]
    · rename_i hprefix
      have hnone : ¬sep <+: c :: cs := by
        rintro ⟨rest, hrest⟩
        rw [List.isPrefixOf?_eq_some_iff_append_eq.2 hrest] at hprefix
        cases hprefix
      simp [hnone]

/-- What stands in front of the first character of a class is cut off there. -/
theorem cutAtList_append {p : Char → Bool} {front : List Char} (hfront : ∀ c ∈ front, p c = false)
    {c : Char} (hc : p c = true) (back : List Char) :
    cutAtList p (front ++ c :: back) = some (front, back) := by
  induction front with
  | nil => simp [cutAtList, hc]
  | cons d front ih =>
    have hd : p d = false := hfront d List.mem_cons_self
    rw [List.cons_append, cutAtList, hd, ih fun c hc => hfront c (List.mem_cons_of_mem _ hc)]
    rfl

end BrowserGrid.Text
