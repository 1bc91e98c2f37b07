import BrowserGrid.Proofs.Capability.Namespacing

/-!
# What the custom keys read as once they are moved

A null is a value when keys are moved and none when they are read.  Where one stands under the
prefix, the plain value beside it is what the key reads as before the move, and it is gone after it
(`Shadowed`).  That is all that a move can change: every other key reads as before
(`custom?_namespaced_eq`), and so do the screen, the time zone and the priority, which are read
through those keys (`namespaced_readings`).
-/

namespace BrowserGrid.Capabilities

/-- A null under the prefix hides the plain value of a key once the key is moved. -/
def Shadowed (c : Capabilities) (key : String) : Prop :=
  c.get? (prefixed key) = some .null ∧ (c.text? key).isSome = true

instance (c : Capabilities) (key : String) : Decidable (c.Shadowed key) :=
  inferInstanceAs (Decidable (_ ∧ _))

/-! ### One key -/

theorem valueText?_eq_none_iff {value : Json} : valueText? value = none ↔ value = .null := by
  cases value <;> simp [valueText?]

theorem Shadowed.isSome_custom? {c : Capabilities} {key : String} (h : c.Shadowed key) :
    (c.custom? key).isSome = true := by
  rw [custom?, Option.isSome_or, h.2, Bool.or_true]

variable {key : String}

theorem custom?_namespaced_eq (hkey : key ∈ customKeys) (c : Capabilities) :
    c.namespaced.custom? key = if c.Shadowed key then none else c.custom? key := by
  by_cases hshadowed : c.Shadowed key
  · rw [if_pos hshadowed, custom?_namespaced hkey, hshadowed.1]
    rfl
  · rw [if_neg hshadowed, custom?_namespaced hkey, custom?, text?, text?]
    cases hprefixed : c.get? (prefixed key) with
    | none => simp
    | some value =>
      cases hread : valueText? value with
      | some text => simp [hread]
      | none =>
        -- a null that hides nothing
        have hplain : c.text? key = none := by
          by_contra hsome
          rw [valueText?_eq_none_iff.1 hread] at hprefixed
          exact hshadowed ⟨hprefixed, Option.isSome_iff_ne_none.2 hsome⟩
        rw [text?] at hplain
        simp [hread, hplain]

/-- A key reads as before unless it was shadowed. -/
theorem custom?_namespaced_eq_iff (hkey : key ∈ customKeys) (c : Capabilities) :
    c.namespaced.custom? key = c.custom? key ↔ ¬c.Shadowed key := by
  rw [custom?_namespaced_eq hkey]
  split
  · rename_i hshadowed
    have hsome := hshadowed.isSome_custom?
    constructor
    · intro hnone
      rw [← hnone] at hsome
      cases hsome
    · intro hnot
      exact absurd hshadowed hnot
  · rename_i hnot
    exact ⟨fun _ => hnot, fun _ => rfl⟩

/-! ### The time zone and the priority -/

theorem timeZone?_namespaced_eq (c : Capabilities) :
    c.namespaced.timeZone? = if c.Shadowed "tz" then none else c.timeZone? := by
  rw [timeZone?, custom?_namespaced_eq (by decide), timeZone?]
  split <;> rfl

theorem priority_namespaced_eq (c : Capabilities) :
    c.namespaced.priority = if c.Shadowed "priority" then 0 else c.priority := by
  rw [priority, custom?_namespaced_eq (by decide), priority]
  split <;> rfl

/-! ### The screen -/

/-- Among several readings, those that are hidden do not count. -/
theorem findSome?_hidden {α β : Type} (hidden : α → Prop) [DecidablePred hidden]
    (read : α → Option β) (keys : List α) :
    keys.findSome? (fun key => if hidden key then none else read key) =
      (keys.filter fun key => ¬hidden key).findSome? read := by
  induction keys with
  | nil => rfl
  | cons key keys ih =>
    by_cases hkey : hidden key
    · simp [hkey, ih]
    · simp [List.findSome?_cons, hkey, ih]

/-- The spelling of the resolution that is read. -/
def resolutionKey? (c : Capabilities) : Option String :=
  resolutionKeys.find? fun key => (c.custom? key).isSome

/-- After the move the first spelling counts that has a value and was not shadowed. -/
theorem screenResolution?_namespaced_eq (c : Capabilities) :
    c.namespaced.screenResolution? =
      ((resolutionKeys.filter fun key => ¬c.Shadowed key).findSome? c.custom?).bind
        Text.trimmed? := by
  have hread : resolutionKeys.findSome? c.namespaced.custom? =
      resolutionKeys.findSome? fun key => if c.Shadowed key then none else c.custom? key :=
    findSome?_congr fun key hkey => custom?_namespaced_eq (resolutionKeys_subset hkey) c
  rw [screenResolution?, hread, findSome?_hidden]

/-- The screen is the same unless the spelling was shadowed that it was read from. -/
theorem screenResolution?_namespaced_of_key {c : Capabilities}
    (h : ∀ key, c.resolutionKey? = some key → ¬c.Shadowed key) :
    c.namespaced.screenResolution? = c.screenResolution? := by
  have hread : resolutionKeys.findSome? c.namespaced.custom? =
      resolutionKeys.findSome? c.custom? := by
    cases hkey : c.resolutionKey? with
    | none =>
      have hnone : ∀ key ∈ resolutionKeys, c.custom? key = none := by
        simpa [resolutionKey?] using hkey
      refine findSome?_congr fun key hmem => ?_
      rw [custom?_namespaced_eq (resolutionKeys_subset hmem), hnone key hmem, ite_self]
    | some key =>
      obtain ⟨hsome, front, back, hkeys, hfront⟩ := List.find?_eq_some_iff_append.1 hkey
      have hmem : ∀ other ∈ front ++ key :: back, other ∈ customKeys := fun other hother =>
        resolutionKeys_subset (hkeys ▸ hother)
      -- up to the spelling that is read there is nothing to lose
      have hnone : ∀ other ∈ front, c.custom? other = none := by simpa using hfront
      have hnone' : ∀ other ∈ front, c.namespaced.custom? other = none := fun other hother => by
        rw [custom?_namespaced_eq (hmem other (List.mem_append_left _ hother)),
          hnone other hother, ite_self]
      have hkept : c.namespaced.custom? key = c.custom? key :=
        (custom?_namespaced_eq_iff (hmem key (by simp)) c).2 (h key hkey)
      obtain ⟨text, htext⟩ := Option.isSome_iff_exists.1 hsome
      rw [hkeys, List.findSome?_append, List.findSome?_append,
        List.findSome?_eq_none_iff.2 hnone, List.findSome?_eq_none_iff.2 hnone',
        List.findSome?_cons, List.findSome?_cons, hkept, htext]
  rw [screenResolution?, hread, screenResolution?]

/-! ### The whole map -/

/-- The readings of `c.namespaced` are those of `c`, except for the keys that are `Shadowed`, whose
readings are lost. -/
structure MovedReadings (c : Capabilities) : Prop where
  standard : ∀ k, IsStandard k → c.namespaced.get? k = c.get? k
  plain : ∀ key ∈ customKeys, c.namespaced.get? key = none
  twice : c.namespaced.namespaced = c.namespaced
  custom : ∀ key ∈ customKeys, (c.namespaced.custom? key = c.custom? key ↔ ¬c.Shadowed key)
  lost : ∀ key ∈ customKeys, c.Shadowed key → c.namespaced.custom? key = none
  timeZone : c.namespaced.timeZone? = c.timeZone? ↔ ¬c.Shadowed "tz" ∨ c.timeZone? = none
  priority : c.namespaced.priority = c.priority ↔ ¬c.Shadowed "priority" ∨ c.priority = 0
  screen : c.namespaced.screenResolution? =
    ((resolutionKeys.filter fun key => ¬c.Shadowed key).findSome? c.custom?).bind Text.trimmed?
  screenKept : (∀ key, c.resolutionKey? = some key → ¬c.Shadowed key) →
    c.namespaced.screenResolution? = c.screenResolution? ∧
      c.namespaced.screenDimensions? = c.screenDimensions?

/-- A move of the custom keys changes what a map says where a null under the prefix shadows a plain
value, and nowhere else. -/
theorem namespaced_readings (c : Capabilities) : c.MovedReadings where
  standard _ hk := get?_namespaced hk c
  plain _ hkey := get?_namespaced_plain hkey c
  twice := namespaced_namespaced c
  custom _ hkey := custom?_namespaced_eq_iff hkey c
  lost _ hkey hshadowed := by rw [custom?_namespaced_eq hkey, if_pos hshadowed]
  timeZone := by
    rw [timeZone?_namespaced_eq]
    by_cases hshadowed : c.Shadowed "tz" <;> simp [hshadowed, eq_comm]
  priority := by
    rw [priority_namespaced_eq]
    by_cases hshadowed : c.Shadowed "priority" <;> simp [hshadowed, eq_comm]
  screen := screenResolution?_namespaced_eq c
  screenKept hkept := by
    have hscreen := screenResolution?_namespaced_of_key hkept
    exact ⟨hscreen, by rw [screenDimensions?, hscreen, screenDimensions?]⟩

/-- A request whose time zone, priority and screen stand beside a null under the prefix. -/
def nullBeside : Capabilities :=
  .ofList [("hub:tz", .null), ("tz", .str "Europe/Berlin"), ("hub:priority", .null),
    ("priority", Json.int 5), ("hub:screenResolution", .null),
    ("screenResolution", .str "1280x720")]

/-- The move loses all of them. -/
theorem namespaced_loses :
    nullBeside.custom? "tz" = some "Europe/Berlin" ∧ nullBeside.namespaced.custom? "tz" = none ∧
      nullBeside.timeZone? = some "Europe/Berlin" ∧ nullBeside.namespaced.timeZone? = none ∧
      nullBeside.priority = 5 ∧ nullBeside.namespaced.priority = 0 ∧
      nullBeside.screenResolution? = some "1280x720" ∧
      nullBeside.namespaced.screenResolution? = none ∧
      nullBeside.screenDimensions? = some (1280, 720) ∧
      nullBeside.namespaced.screenDimensions? = none := by
  decide +kernel

end BrowserGrid.Capabilities
