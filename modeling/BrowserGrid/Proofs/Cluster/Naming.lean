import BrowserGrid.Cluster.ResourceName
import Mathlib.Data.List.Chain

/-!
# Which names the check lets through

A subdomain is a sequence of labels with points between them, and a label consists of small letters,
digits and hyphens with a letter or digit at either end (`IsSubdomain`).  The check of a name looks
at its characters one by one, and at the ends of the whole name (`check_eq_ok_iff`).

* `isSubdomain_iff`: so it lets every subdomain through, and beside them the names in which a point
  stands next to another point or to a hyphen (`PointsApart`).
-/

namespace BrowserGrid

/-! ### Pieces between separators -/

namespace Text

theorem piecesList_ne_nil (p : Char → Bool) (cs : List Char) : piecesList p cs ≠ [] := by
  cases cs with
  | nil => exact List.cons_ne_nil _ _
  | cons c cs =>
    unfold piecesList
    split
    · exact List.cons_ne_nil _ _
    · split <;> exact List.cons_ne_nil _ _

/-- A list is made of its pieces, with the separator between them. -/
theorem intercalate_piecesList (sep : Char) (cs : List Char) :
    [sep].intercalate (piecesList (· = sep) cs) = cs := by
  induction cs with
  | nil => rfl
  | cons c cs ih =>
    obtain ⟨piece, rest, hpieces⟩ :=
      List.exists_cons_of_ne_nil (piecesList_ne_nil (· = sep) cs)
    rw [hpieces] at ih
    unfold piecesList
    rw [hpieces]
    split
    · rename_i hsep
      obtain rfl : c = sep := by simpa using hsep
      rw [List.intercalate_cons_cons, ih]
      rfl
    · rw [← ih]
      cases rest <;> rfl

theorem not_mem_of_mem_piecesList {sep : Char} {cs : List Char} :
    ∀ piece ∈ piecesList (· = sep) cs, sep ∉ piece := by
  induction cs with
  | nil => simp [piecesList]
  | cons c cs ih =>
    obtain ⟨first, rest, hpieces⟩ :=
      List.exists_cons_of_ne_nil (piecesList_ne_nil (· = sep) cs)
    rw [hpieces] at ih
    intro piece hpiece
    unfold piecesList at hpiece
    rw [hpieces] at hpiece
    split at hpiece
    · rcases List.mem_cons.1 hpiece with rfl | hpiece
      · exact List.not_mem_nil
      · exact ih piece hpiece
    · rename_i hsep
      rcases List.mem_cons.1 hpiece with rfl | hpiece
      · have hc : sep ≠ c := fun heq => hsep (by simp [heq])
        rw [List.mem_cons, not_or]
        exact ⟨hc, ih first List.mem_cons_self⟩
      · exact ih piece (List.mem_cons_of_mem _ hpiece)

end Text

namespace ResourceName

/-! ### Subdomains -/

/-- The first and the last character are letters or digits. -/
structure HasEnds (cs : List Char) : Prop where
  first : ∃ c, cs.head? = some c ∧ isAlphanumeric c
  last : ∃ c, cs.getLast? = some c ∧ isAlphanumeric c

/-- A label: small letters, digits and hyphens, with a letter or digit at either end. -/
structure IsLabel (cs : List Char) : Prop where
  chars : ∀ c ∈ cs, isAlphanumeric c ∨ c = '-'
  ends : HasEnds cs

/-- A subdomain: labels with points between them, in 1 to 253 bytes. -/
structure IsSubdomain (name : String) : Prop where
  size : 1 ≤ Text.byteLength name ∧ Text.byteLength name ≤ 253
  labels : ∃ labels, (∀ l ∈ labels, IsLabel l) ∧ name.toList = ['.'].intercalate labels

/-! ### The rule of the check -/

/-- Small letters, digits, hyphens and points, with a letter or digit at either end. -/
structure IsPlain (cs : List Char) : Prop where
  chars : ∀ c ∈ cs, isAlphanumeric c ∨ c = '-' ∨ c = '.'
  ends : HasEnds cs

theorem isPlain_iff {cs : List Char} :
    IsPlain cs ↔ cs.all isNameChar = true ∧
      (cs.head?.any isAlphanumeric && cs.getLast?.any isAlphanumeric) = true := by
  simp only [List.all_eq_true, isNameChar, Bool.or_eq_true, decide_eq_true_eq, Bool.and_eq_true,
    Option.any_eq_true, or_assoc]
  constructor
  · intro h
    exact ⟨h.chars, h.ends.first, h.ends.last⟩
  · rintro ⟨hchars, hfirst, hlast⟩
    exact ⟨hchars, hfirst, hlast⟩

theorem one_le_byteLength_iff {name : String} :
    1 ≤ Text.byteLength name ↔ name.toList.isEmpty = false := by
  have hzero : Text.byteLength name = 0 ↔ name = "" := String.utf8ByteSize_eq_zero_iff
  rw [Nat.one_le_iff_ne_zero, ne_eq, hzero]
  simp

theorem check_eq_ok_iff (name : String) :
    check name = .ok () ↔
      (1 ≤ Text.byteLength name ∧ Text.byteLength name ≤ 253) ∧ IsPlain name.toList := by
  rw [one_le_byteLength_iff, isPlain_iff, check]
  cases name.toList.isEmpty with
  | true => simp
  | false =>
    by_cases hsize : Text.byteLength name ≤ 253
    · have hshort : ¬Text.byteLength name > maxBytes := Nat.not_lt.2 hsize
      cases name.toList.all isNameChar <;>
        cases name.toList.head?.any isAlphanumeric && name.toList.getLast?.any isAlphanumeric <;>
          simp [hsize, hshort]
    · have hlong : Text.byteLength name > maxBytes := Nat.not_le.1 hsize
      simp [hsize, hlong]

/-! ### Where points stand -/

/-- Of two neighbours, one that is a point has a letter or digit beside it. -/
def Apart (a b : Char) : Prop :=
  (a = '.' → isAlphanumeric b) ∧ (b = '.' → isAlphanumeric a)

instance (a b : Char) : Decidable (Apart a b) :=
  inferInstanceAs (Decidable ((a = '.' → isAlphanumeric b) ∧ (b = '.' → isAlphanumeric a)))

/-- No point stands next to another point or to a hyphen. -/
def PointsApart (cs : List Char) : Prop := cs.IsChain Apart

instance (cs : List Char) : Decidable (PointsApart cs) :=
  inferInstanceAs (Decidable (cs.IsChain Apart))

theorem pointsApart_of_not_mem {cs : List Char} (h : '.' ∉ cs) : PointsApart cs := by
  induction cs with
  | nil => exact .nil
  | cons c cs ih =>
    rw [List.mem_cons, not_or] at h
    refine List.isChain_cons.2 ⟨fun d hd => ⟨fun hc => ?_, fun hd' => ?_⟩, ih h.2⟩
    · exact absurd hc.symm h.1
    · rw [hd'] at hd
      exact absurd (List.mem_of_mem_head? hd) h.2

theorem pointsApart_append {front back : List Char} :
    PointsApart (front ++ '.' :: back) ↔
      PointsApart front ∧ PointsApart back ∧ (∀ c, front.getLast? = some c → isAlphanumeric c) ∧
        ∀ c, back.head? = some c → isAlphanumeric c := by
  have hpoint : ¬isAlphanumeric '.' = true := by decide
  unfold PointsApart
  rw [List.isChain_append, List.isChain_cons]
  constructor
  · rintro ⟨hfront, ⟨hhead, hback⟩, hlast⟩
    exact ⟨hfront, hback, fun c hc => (hlast c hc '.' rfl).2 rfl, fun c hc => (hhead c hc).1 rfl⟩
  · rintro ⟨hfront, hback, hlast, hhead⟩
    refine ⟨hfront, ⟨fun c hc => ⟨fun _ => hhead c hc, fun heq => ?_⟩, hback⟩, fun c hc d hd => ?_⟩
    · exact absurd (heq ▸ hhead c hc) hpoint
    · obtain rfl : '.' = d := Option.some.inj hd
      refine ⟨fun heq => ?_, fun _ => hlast c hc⟩
      exact absurd (heq ▸ hlast c hc) hpoint

theorem isLabel_iff_isPlain {cs : List Char} (h : '.' ∉ cs) : IsLabel cs ↔ IsPlain cs := by
  constructor
  · intro hlabel
    exact ⟨fun c hc => (hlabel.chars c hc).imp_right .inl, hlabel.ends⟩
  · intro hplain
    refine ⟨fun c hc => ?_, hplain.ends⟩
    rcases hplain.chars c hc with hc' | hc' | rfl
    · exact .inl hc'
    · exact .inr hc'
    · exact absurd hc h

/-- What stands around a point between letters or digits is plain on both sides. -/
theorem isPlain_append {front back : List Char}
    (hlast : ∀ c, front.getLast? = some c → isAlphanumeric c)
    (hhead : ∀ c, back.head? = some c → isAlphanumeric c) :
    IsPlain (front ++ '.' :: back) ↔ IsPlain front ∧ IsPlain back := by
  have hpoint : ¬isAlphanumeric '.' = true := by decide
  constructor
  · intro h
    obtain ⟨a, ha, hfirst⟩ := h.ends.first
    obtain ⟨b, hb, hend⟩ := h.ends.last
    -- neither side is empty: the whole neither begins nor ends with the point
    have hfront : front ≠ [] := by
      rintro rfl
      obtain rfl : '.' = a := Option.some.inj ha
      exact hpoint hfirst
    have hback : back ≠ [] := by
      rintro rfl
      rw [List.getLast?_concat] at hb
      obtain rfl : '.' = b := Option.some.inj hb
      exact hpoint hend
    have hchars := List.forall_mem_append.1 h.chars
    refine ⟨⟨hchars.1, ⟨a, ?_, hfirst⟩, _, List.getLast?_eq_some_getLast hfront, ?_⟩,
      ⟨(List.forall_mem_cons.1 hchars.2).2, ⟨_, List.head?_eq_some_head hback, ?_⟩, b, ?_, hend⟩⟩
    · rw [List.head?_append_of_ne_nil _ hfront] at ha
      exact ha
    · exact hlast _ (List.getLast?_eq_some_getLast hfront)
    · exact hhead _ (List.head?_eq_some_head hback)
    · rw [List.getLast?_append_of_ne_nil _ (List.cons_ne_nil _ _),
        List.getLast?_cons_of_ne_nil hback] at hb
      exact hb
  · rintro ⟨hfront, hback⟩
    obtain ⟨a, ha, hfirst⟩ := hfront.ends.first
    obtain ⟨b, hb, hend⟩ := hback.ends.last
    refine ⟨List.forall_mem_append.2 ⟨hfront.chars, List.forall_mem_cons.2 ⟨.inr (.inr rfl),
      hback.chars⟩⟩, ⟨a, ?_, hfirst⟩, b, ?_, hend⟩
    · rw [List.head?_append, ha]
      rfl
    · rw [List.getLast?_append, List.getLast?_cons, hb]
      rfl

/-- Labels with points between them are plain, and the points stand apart. -/
theorem labels_iff {labels : List (List Char)} (hne : labels ≠ [])
    (hpoints : ∀ l ∈ labels, '.' ∉ l) :
    (∀ l ∈ labels, IsLabel l) ↔
      IsPlain (['.'].intercalate labels) ∧ PointsApart (['.'].intercalate labels) := by
  induction labels with
  | nil => exact absurd rfl hne
  | cons l rest ih =>
    have hl := hpoints l List.mem_cons_self
    cases rest with
    | nil =>
      rw [List.intercalate_singleton, List.forall_mem_singleton, isLabel_iff_isPlain hl]
      exact ⟨fun h => ⟨h, pointsApart_of_not_mem hl⟩, And.left⟩
    | cons next rest =>
      have hback := ih (List.cons_ne_nil _ _) fun l hl => hpoints l (List.mem_cons_of_mem _ hl)
      rw [List.intercalate_cons_cons, List.append_assoc, List.singleton_append,
        List.forall_mem_cons, hback, pointsApart_append, isLabel_iff_isPlain hl]
      -- between two labels there is a point, and plain labels have letters or digits on its sides
      constructor
      · rintro ⟨hplain, hplain', happart⟩
        have hlast : ∀ c, l.getLast? = some c → isAlphanumeric c := by
          obtain ⟨d, hd, hend⟩ := hplain.ends.last
          intro c hc
          obtain rfl := Option.some.inj (hd.symm.trans hc)
          exact hend
        have hhead : ∀ c, (['.'].intercalate (next :: rest)).head? = some c → isAlphanumeric c := by
          obtain ⟨d, hd, hfirst⟩ := hplain'.ends.first
          intro c hc
          obtain rfl := Option.some.inj (hd.symm.trans hc)
          exact hfirst
        exact ⟨(isPlain_append hlast hhead).2 ⟨hplain, hplain'⟩, pointsApart_of_not_mem hl, happart,
          hlast, hhead⟩
      · rintro ⟨hplain, -, happart, hlast, hhead⟩
        obtain ⟨hfront, hplain'⟩ := (isPlain_append hlast hhead).1 hplain
        exact ⟨hfront, hplain', happart⟩

theorem isSubdomain_iff_isPlain (name : String) :
    IsSubdomain name ↔ (1 ≤ Text.byteLength name ∧ Text.byteLength name ≤ 253) ∧
      IsPlain name.toList ∧ PointsApart name.toList := by
  constructor
  · intro h
    obtain ⟨labels, hlabels, hname⟩ := h.labels
    have hne : labels ≠ [] := by
      rintro rfl
      have hnonempty := one_le_byteLength_iff.1 h.size.1
      rw [hname] at hnonempty
      cases hnonempty
    refine ⟨h.size, ?_⟩
    rw [hname]
    refine (labels_iff hne fun l hl hmem => ?_).1 hlabels
    exact absurd ((hlabels l hl).chars '.' hmem) (by decide)
  · rintro ⟨hsize, h⟩
    refine ⟨hsize, Text.piecesList (· = '.') name.toList, ?_,
      (Text.intercalate_piecesList '.' name.toList).symm⟩
    refine (labels_iff (Text.piecesList_ne_nil _ _) Text.not_mem_of_mem_piecesList).2 ?_
    rw [Text.intercalate_piecesList]
    exact h

/-! ### The check and the grammar -/

theorem isSubdomain_iff (name : String) :
    (IsSubdomain name ↔ check name = .ok () ∧ PointsApart name.toList) ∧
      (check name = .ok () ↔
        (1 ≤ Text.byteLength name ∧ Text.byteLength name ≤ 253) ∧ IsPlain name.toList) ∧
      ¬(check name = .ok () ∧ name.toList.head? = some '-') := by
  refine ⟨?_, check_eq_ok_iff name, ?_⟩
  · rw [isSubdomain_iff_isPlain, check_eq_ok_iff]
    exact and_assoc.symm
  · rintro ⟨hcheck, hhyphen⟩
    obtain ⟨c, hc, hfirst⟩ := ((check_eq_ok_iff name).1 hcheck).2.ends.first
    obtain rfl := Option.some.inj (hhyphen.symm.trans hc)
    exact absurd hfirst (by decide)

/-- Two points in a row are let through, though there is no label between them. -/
theorem empty_label_accepted : ¬∀ name, check name = .ok () ↔ IsSubdomain name := by
  intro h
  have hsubdomain : IsSubdomain "a..b" := (h "a..b").1 (by decide)
  have happart : PointsApart "a..b".toList := ((isSubdomain_iff_isPlain "a..b").1 hsubdomain).2.2
  exact absurd happart (by decide)

end ResourceName

end BrowserGrid
