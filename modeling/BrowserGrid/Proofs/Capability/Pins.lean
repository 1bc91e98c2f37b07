import BrowserGrid.Proofs.Capability.Provisioned

/-!
# What a request insists on under one of several spellings

Version, platform and screen each have several spellings.  The first that reads as a text is taken,
and only then is a wildcard or a blank dropped (`Sole.filter_findSome?`): a request that insists on
a value under a later spelling, with a wildcard in front of it, insists on nothing.

So a matcher honours the one value that a request insists on where nothing is read in front of it.
Where something is, the version and the platform of the offer may be anything, and the screen is
that of the defaults (`Honours`, `pinned_honoured`).
-/

namespace BrowserGrid

namespace Capabilities

/-! ### The first spelling counts -/

/-- Among some names a single one reads as a text that pins something. -/
structure Sole (read : String → Option String) (pins : String → Bool) (keys : List String)
    (key value : String) : Prop where
  mem : key ∈ keys
  reads : read key = some value
  pinned : pins value = true
  others : ∀ other ∈ keys, other ≠ key → ∀ text ∈ read other, pins text = false

instance (read : String → Option String) (pins : String → Bool) (keys : List String)
    (key value : String) : Decidable (Sole read pins keys key value) :=
  decidable_of_iff (key ∈ keys ∧ read key = some value ∧ pins value = true ∧
      ∀ other ∈ keys, other ≠ key → ∀ text ∈ read other, pins text = false)
    ⟨fun ⟨hmem, hreads, hpinned, hothers⟩ => ⟨hmem, hreads, hpinned, hothers⟩,
      fun h => ⟨h.mem, h.reads, h.pinned, h.others⟩⟩

/-- Something is read under a name in front of a given one. -/
def Covered (read : String → Option String) (keys : List String) (key : String) : Prop :=
  ∃ other ∈ keys.takeWhile (· ≠ key), (read other).isSome = true

instance (read : String → Option String) (keys : List String) (key : String) :
    Decidable (Covered read keys key) :=
  inferInstanceAs (Decidable (∃ other ∈ keys.takeWhile (· ≠ key), (read other).isSome = true))

theorem exists_append_of_mem {key : String} {keys : List String} (h : key ∈ keys) :
    ∃ back, keys = keys.takeWhile (· ≠ key) ++ key :: back := by
  induction keys with
  | nil => cases h
  | cons first keys ih =>
    by_cases hfirst : first = key
    · exact ⟨keys, by simp [hfirst]⟩
    · obtain ⟨back, hback⟩ := ih ((List.mem_cons.1 h).resolve_left (Ne.symm hfirst))
      exact ⟨back, by simpa [hfirst] using hback⟩

section Reading

variable {read : String → Option String} {pins : String → Bool} {keys : List String}
  {key value : String}

/-- Where no name reads as a text that pins something, nothing is pinned. -/
theorem filter_findSome?_eq_none
    (h : ∀ key ∈ keys, ∀ text, read key = some text → pins text = false) :
    (keys.findSome? read).filter pins = none := by
  refine Option.filter_eq_none_iff.2 fun text htext => ?_
  obtain ⟨key, hkey, hread⟩ := List.exists_of_findSome?_eq_some htext
  simp [h key hkey text hread]

/-- The text that is read first is the one that pins, or it hides it. -/
theorem Sole.filter_findSome? (h : Sole read pins keys key value) :
    (keys.findSome? read).filter pins = if Covered read keys key then none else some value := by
  obtain ⟨back, hkeys⟩ := exists_append_of_mem h.mem
  have hsplit : keys.findSome? read =
      ((keys.takeWhile (· ≠ key)).findSome? read).or (some value) := by
    conv_lhs => rw [hkeys]
    rw [List.findSome?_append, List.findSome?_cons, h.reads]
  rw [hsplit]
  cases hfront : (keys.takeWhile (· ≠ key)).findSome? read with
  | none =>
    have hopen : ¬Covered read keys key := by
      rintro ⟨other, hother, hsome⟩
      rw [List.findSome?_eq_none_iff.1 hfront other hother] at hsome
      cases hsome
    rw [if_neg hopen, Option.none_or, Option.filter_some, if_pos h.pinned]
  | some text =>
    obtain ⟨other, hother, htext⟩ := List.exists_of_findSome?_eq_some hfront
    have hcovered : Covered read keys key := ⟨other, hother, by rw [htext]; rfl⟩
    have hne : other ≠ key := by simpa using List.mem_takeWhile_imp hother
    have hmem : other ∈ keys := (List.takeWhile_sublist _).subset hother
    have hidle : pins text = false := h.others other hmem hne text htext
    rw [if_pos hcovered, Option.some_or, Option.filter_some, if_neg (by simp [hidle])]

end Reading

/-! ### Version and platform -/

/-- Whether a requested version or platform accepts only some offers. -/
def isPin (value : String) : Bool := !isWildcard value

variable {c : Capabilities} {key value : String}

theorem Sole.pinnedVersion? (h : Sole c.text? isPin versionKeys key value) :
    c.pinnedVersion? = if Covered c.text? versionKeys key then none else some value :=
  h.filter_findSome?

theorem Sole.pinnedPlatform? (h : Sole c.text? isPin platformKeys key value) :
    c.pinnedPlatform? = if Covered c.text? platformKeys key then none else some value :=
  h.filter_findSome?

/-! ### The screen -/

/-- Whether a text is more than blanks. -/
def isStated (text : String) : Bool := (Text.trimmed? text).isSome

/-- The spellings of the resolution, with and without the prefix. -/
def resolutionSpellings : List String := resolutionKeys.flatMap fun key => [prefixed key, key]

/-- What stands under a spelling of the resolution is not what is read once the custom keys are
moved: something stands under the prefix already, or another key is read before this one. -/
def ScreenHidden (c : Capabilities) (key spelling : String) : Prop :=
  (spelling = key ∧ (c.get? (prefixed key)).isSome = true) ∨
    Covered c.namespaced.custom? resolutionKeys key

instance (c : Capabilities) (key spelling : String) : Decidable (c.ScreenHidden key spelling) :=
  inferInstanceAs (Decidable (_ ∨ _))

/-- After the move a key reads as what stood under its prefix, and as its plain value where nothing
stood there. -/
theorem custom?_namespaced_cases {text : String} (hkey : key ∈ customKeys)
    (h : c.namespaced.custom? key = some text) :
    c.text? (prefixed key) = some text ∨
      c.get? (prefixed key) = none ∧ c.text? key = some text := by
  rw [custom?_namespaced hkey] at h
  cases hprefixed : c.get? (prefixed key) with
  | none =>
    rw [hprefixed, Option.none_or] at h
    exact .inr ⟨rfl, h⟩
  | some stands =>
    rw [hprefixed, Option.some_or] at h
    exact .inl (by rw [text?, hprefixed, h])

theorem bind_trimmed?_eq (o : Option String) :
    o.bind Text.trimmed? = (o.filter isStated).bind Text.trimmed? := by
  cases o with
  | none => rfl
  | some text =>
    cases htext : Text.trimmed? text <;> simp [isStated, htext, Option.filter_some]

theorem trimmed?_of_isStated {text : String} (h : isStated text = true) :
    Text.trimmed? text = some (Text.trim text) := by
  obtain ⟨trimmed, htrimmed⟩ := Option.isSome_iff_exists.1 h
  rw [htrimmed, (Text.trimmed?_eq_some_iff.1 htrimmed).1]

theorem plain_resolutionKeys : Plain resolutionKeys := fun key hkey other hother =>
  plain_customKeys key (resolutionKeys_subset hkey) other (resolutionKeys_subset hother)

theorem mem_resolutionSpellings :
    ∀ key ∈ resolutionKeys, prefixed key ∈ resolutionSpellings ∧ key ∈ resolutionSpellings := by
  decide

/-- A resolution stands under one spelling of a key, and every other spelling is blank. -/
structure SoleScreen (c : Capabilities) (key spelling value : String) : Prop where
  key_mem : key ∈ resolutionKeys
  spelled : spelling = prefixed key ∨ spelling = key
  sole : Sole c.text? isStated resolutionSpellings spelling value

instance (c : Capabilities) (key spelling value : String) :
    Decidable (c.SoleScreen key spelling value) :=
  decidable_of_iff (key ∈ resolutionKeys ∧ (spelling = prefixed key ∨ spelling = key) ∧
      Sole c.text? isStated resolutionSpellings spelling value)
    ⟨fun ⟨hmem, hspelled, hsole⟩ => ⟨hmem, hspelled, hsole⟩,
      fun h => ⟨h.key_mem, h.spelled, h.sole⟩⟩

namespace SoleScreen

variable {spelling : String}

/-- Every key but its own reads as blank after the move. -/
theorem blank_of_ne (h : c.SoleScreen key spelling value) {other text : String}
    (hother : other ∈ resolutionKeys) (hne : other ≠ key)
    (htext : c.namespaced.custom? other = some text) : isStated text = false := by
  obtain ⟨hprefixed, hplain⟩ := mem_resolutionSpellings other hother
  rcases custom?_namespaced_cases (resolutionKeys_subset hother) htext with
    hread | ⟨-, hread⟩
  · refine h.sole.others _ hprefixed ?_ text hread
    rcases h.spelled with rfl | rfl
    · exact fun heq => hne (prefixed_injective heq)
    · exact (plain_resolutionKeys _ h.key_mem other hother).symm
  · refine h.sole.others _ hplain ?_ text hread
    rcases h.spelled with rfl | rfl
    · exact plain_resolutionKeys other hother key h.key_mem
    · exact hne

/-- A plain spelling is dropped where something stands under the prefix, which is blank. -/
theorem blank_of_stays (h : c.SoleScreen key key value)
    (hstays : (c.get? (prefixed key)).isSome = true) {text : String}
    (htext : c.namespaced.custom? key = some text) : isStated text = false := by
  rcases custom?_namespaced_cases (resolutionKeys_subset h.key_mem) htext with
    hread | ⟨hnone, -⟩
  · exact h.sole.others _ (mem_resolutionSpellings key h.key_mem).1
      (plain_resolutionKeys key h.key_mem key h.key_mem).symm text hread
  · rw [hnone] at hstays
    cases hstays

/-- The value is read after the move unless its spelling was dropped. -/
theorem custom?_namespaced (h : c.SoleScreen key spelling value)
    (hmoved : ¬(spelling = key ∧ (c.get? (prefixed key)).isSome = true)) :
    c.namespaced.custom? key = some value := by
  rw [Capabilities.custom?_namespaced (resolutionKeys_subset h.key_mem)]
  have hreads := h.sole.reads
  rcases h.spelled with rfl | rfl
  · obtain ⟨stands, hstands, htext⟩ := Option.bind_eq_some_iff.1 hreads
    rw [hstands, Option.some_or, Option.bind_some, htext]
  · have hnone : c.get? (prefixed spelling) = none := by simpa using hmoved
    rw [hnone, Option.none_or, ← text?, hreads]

/-- A slot of the fleet is asked for the screen that is stated, unless that is hidden; then it is
asked for none. -/
theorem screenResolution?_namespaced (h : c.SoleScreen key spelling value) :
    c.namespaced.screenResolution? =
      if c.ScreenHidden key spelling then none else some (Text.trim value) := by
  rw [screenResolution?, bind_trimmed?_eq]
  by_cases hstays : spelling = key ∧ (c.get? (prefixed key)).isSome = true
  · have hnone : (resolutionKeys.findSome? c.namespaced.custom?).filter isStated = none := by
      refine filter_findSome?_eq_none fun other hother text htext => ?_
      obtain ⟨rfl, hstays⟩ := hstays
      by_cases hne : other = spelling
      · subst hne
        exact h.blank_of_stays hstays htext
      · exact h.blank_of_ne hother hne htext
    have hhidden : c.ScreenHidden key spelling := .inl hstays
    rw [hnone, if_pos hhidden, Option.bind_none]
  · have hsole : Sole c.namespaced.custom? isStated resolutionKeys key value :=
      { mem := h.key_mem
        reads := h.custom?_namespaced hstays
        pinned := h.sole.pinned
        others := fun _ hother hne _ htext => h.blank_of_ne hother hne htext }
    have hiff : c.ScreenHidden key spelling ↔ Covered c.namespaced.custom? resolutionKeys key :=
      ⟨fun hhidden => hhidden.resolve_left hstays, Or.inr⟩
    rw [hsole.filter_findSome?]
    by_cases hcovered : Covered c.namespaced.custom? resolutionKeys key
    · rw [if_pos hcovered, if_pos (hiff.2 hcovered), Option.bind_none]
    · rw [if_neg hcovered, if_neg fun hhidden => hcovered (hiff.1 hhidden), Option.bind_some,
        trimmed?_of_isStated h.sole.pinned]

end SoleScreen

/-! ### Other values under a standard key of the offer -/

section Insert

variable {k : String} {stated : Json}

theorem text?_insert_of_ne {key : String} (hne : key ≠ k) :
    (c.insert k stated).text? key = c.text? key := by
  rw [text?, get?_insert, if_neg hne, text?]

theorem firstOf?_insert {keys : List String} (hkeys : k ∉ keys) :
    (c.insert k stated).firstOf? keys = c.firstOf? keys :=
  findSome?_congr fun _ hkey => text?_insert_of_ne fun heq => hkeys (heq ▸ hkey)

theorem browserName?_insert (hk : "browserName" ≠ k) :
    (c.insert k stated).browserName? = c.browserName? := by
  rw [browserName?, text?_insert_of_ne hk, browserName?]

theorem custom?_namespaced_insert (hk : IsStandard k) {key : String} (hkey : key ∈ customKeys) :
    (c.insert k stated).namespaced.custom? key = c.namespaced.custom? key := by
  obtain ⟨hplain, hprefixed⟩ := hk key hkey
  rw [custom?_namespaced hkey, custom?_namespaced hkey, get?_insert, get?_insert,
    if_neg (Ne.symm hprefixed), if_neg (Ne.symm hplain)]

theorem screenResolution?_namespaced_insert (hk : IsStandard k) :
    (c.insert k stated).namespaced.screenResolution? = c.namespaced.screenResolution? := by
  have hread : resolutionKeys.findSome? (c.insert k stated).namespaced.custom? =
      resolutionKeys.findSome? c.namespaced.custom? :=
    findSome?_congr fun key hkey =>
      custom?_namespaced_insert hk (resolutionKeys_subset hkey)
  rw [screenResolution?, hread, screenResolution?]

theorem timeZone?_namespaced_insert (hk : IsStandard k) :
    (c.insert k stated).namespaced.timeZone? = c.namespaced.timeZone? := by
  rw [timeZone?, custom?_namespaced_insert hk (by decide), timeZone?]

end Insert

end Capabilities

/-! ### What the matchers honour -/

open Capabilities

section Standard

variable {offered requested : Capabilities}

theorem standardMatch_namespaced_offered (offered requested : Capabilities) :
    standardMatch offered.namespaced requested = standardMatch offered requested := by
  have happlication : offered.namespaced.applicationName? = offered.applicationName? :=
    text?_namespaced (by decide) offered
  simp only [standardMatch, browserMatches, versionMatches, platformMatches, applicationMatches,
    browserName?_namespaced, version?_namespaced, platform?_namespaced, happlication]

/-- Who insists on no version takes any. -/
theorem standardMatch_insert_version (hnone : requested.pinnedVersion? = none) (stated : Json) :
    standardMatch (offered.insert "version" stated) requested =
      standardMatch offered requested := by
  have happlication : (offered.insert "version" stated).applicationName? =
      offered.applicationName? :=
    text?_insert_of_ne (by decide)
  have hplatform : (offered.insert "version" stated).platform? = offered.platform? :=
    firstOf?_insert (by decide)
  simp only [standardMatch, browserMatches, versionMatches, platformMatches, applicationMatches,
    browserName?_insert (show "browserName" ≠ "version" by decide), hnone, hplatform, happlication]

/-- Who insists on no platform takes any. -/
theorem standardMatch_insert_platform (hnone : requested.pinnedPlatform? = none) (stated : Json) :
    standardMatch (offered.insert "platform" stated) requested =
      standardMatch offered requested := by
  have happlication : (offered.insert "platform" stated).applicationName? =
      offered.applicationName? :=
    text?_insert_of_ne (by decide)
  have hversion : (offered.insert "platform" stated).version? = offered.version? :=
    firstOf?_insert (by decide)
  simp only [standardMatch, browserMatches, versionMatches, platformMatches, applicationMatches,
    browserName?_insert (show "browserName" ≠ "platform" by decide), hnone, hversion, happlication]

end Standard

namespace Matcher

/-- A matcher compares an offer with the request, unless it is that of a cloud slot without a
browser of its own. -/
def Compares (m : Matcher) (offered : Capabilities) : Prop :=
  m = .cloud → offered.browserName?.isSome = true

instance (m : Matcher) (offered : Capabilities) : Decidable (m.Compares offered) :=
  inferInstanceAs (Decidable (m = .cloud → offered.browserName?.isSome = true))

variable {m : Matcher} {table : Versions} {offered requested : Capabilities}

theorem standardMatch_of_accepted (hcompares : m.Compares offered)
    (haccepted : (m.judge table offered requested).accepted = true) :
    standardMatch offered requested = true := by
  cases m with
  | standard => exact haccepted
  | fleet defaults =>
    obtain ⟨-, hmatch⟩ := Versions.standardMatch_of_fleet haccepted
    rwa [standardMatch_namespaced_offered, standardMatch_namespaced] at hmatch
  | cloud =>
    have hnamed : offered.browserName?.isNone = false := by
      simpa [Option.isSome_iff_ne_none] using hcompares rfl
    rw [Versions.cloud_accepted, Bool.and_eq_true, Versions.cloudTakes, hnamed, Bool.false_or,
      Bool.and_eq_true, standardMatch_namespaced_offered, standardMatch_namespaced] at haccepted
    exact haccepted.1.2

/-- Another value under a standard key of the offer is accepted if the standard keys allow it. -/
theorem accepted_insert {k : String} (hk : IsStandard k) {stated : Json}
    (haccepted : (m.judge table offered requested).accepted = true)
    (hmatch : standardMatch (offered.insert k stated) requested = true) :
    (m.judge table (offered.insert k stated) requested).accepted = true := by
  cases m with
  | standard => exact hmatch
  | fleet defaults =>
    obtain ⟨hnamed, -⟩ := Versions.standardMatch_of_fleet haccepted
    obtain ⟨wanted, hwanted⟩ := Option.isSome_iff_exists.1 hnamed
    rw [fleet_accepted_of_named defaults hwanted, standardMatch_namespaced_offered,
      standardMatch_namespaced] at haccepted ⊢
    rw [resolutionMatches, timeZoneMatches, Bool.and_eq_true, Bool.and_eq_true] at haccepted ⊢
    rw [screenResolution?_namespaced_insert hk, timeZone?_namespaced_insert hk]
    exact ⟨⟨hmatch, haccepted.1.2⟩, haccepted.2⟩
  | cloud =>
    rw [Versions.cloud_accepted, Versions.cloudTakes, Bool.and_eq_true,
      Bool.and_eq_true] at haccepted ⊢
    rw [standardMatch_namespaced_offered, standardMatch_namespaced, hmatch, Bool.or_true]
    exact ⟨⟨haccepted.1.1, rfl⟩, haccepted.2⟩

/-- What an accepted request gets of the values that it pins: the value where nothing is read in
front of it, and anything, or the screen of the defaults, where something is. -/
structure Honours (m : Matcher) (table : Versions) (offered requested : Capabilities) : Prop where
  version : ∀ key value, Sole requested.text? isPin versionKeys key value →
    ¬Covered requested.text? versionKeys key →
    offered.version?.map Text.trim = some (Text.trim value)
  anyVersion : ∀ key value, Sole requested.text? isPin versionKeys key value →
    Covered requested.text? versionKeys key →
    ∀ stated, (m.judge table (offered.insert "version" stated) requested).accepted = true
  platform : ∀ key value, Sole requested.text? isPin platformKeys key value →
    ¬Covered requested.text? platformKeys key →
    ∃ platform, offered.platform? = some platform ∧ PlatformFamily.satisfies platform value = true
  anyPlatform : ∀ key value, Sole requested.text? isPin platformKeys key value →
    Covered requested.text? platformKeys key →
    ∀ stated, (m.judge table (offered.insert "platform" stated) requested).accepted = true
  screen : ∀ defaults, m = .fleet defaults → ∀ key spelling value,
    requested.SoleScreen key spelling value → ¬requested.ScreenHidden key spelling →
    offered.namespaced.screenResolution? = some (Text.trim value)
  defaultScreen : ∀ defaults, m = .fleet defaults → ∀ key spelling value,
    requested.SoleScreen key spelling value → requested.ScreenHidden key spelling →
    offered.namespaced.screenResolution? = some defaults.screenResolution

theorem screenResolution?_of_fleet {defaults : FleetDefaults}
    (haccepted : ((Matcher.fleet defaults).judge table offered requested).accepted = true) :
    offered.namespaced.screenResolution? =
      some (requested.namespaced.screenResolution?.getD defaults.screenResolution) := by
  obtain ⟨hnamed, -⟩ := Versions.standardMatch_of_fleet haccepted
  obtain ⟨wanted, hwanted⟩ := Option.isSome_iff_exists.1 hnamed
  rw [fleet_accepted_of_named defaults hwanted, Bool.and_eq_true, Bool.and_eq_true,
    resolutionMatches] at haccepted
  exact eq_of_beq haccepted.1.2

/-- A matcher honours the one value that a request insists on exactly where no text stands under a
spelling in front of it. -/
theorem pinned_honoured (hcompares : m.Compares offered)
    (haccepted : (m.judge table offered requested).accepted = true) :
    m.Honours table offered requested := by
  have hmatch : standardMatch offered requested = true :=
    standardMatch_of_accepted hcompares haccepted
  have hparts := hmatch
  simp only [standardMatch, Bool.and_eq_true] at hparts
  obtain ⟨⟨⟨-, hversion⟩, hplatform⟩, -⟩ := hparts
  constructor
  case version =>
    intro key value hsole hopen
    rw [versionMatches, hsole.pinnedVersion?, if_neg hopen] at hversion
    exact eq_of_beq hversion
  case anyVersion =>
    intro key value hsole hcovered stated
    have hnone : requested.pinnedVersion? = none := by rw [hsole.pinnedVersion?, if_pos hcovered]
    exact accepted_insert (by decide) haccepted
      (by rw [standardMatch_insert_version hnone, hmatch])
  case platform =>
    intro key value hsole hopen
    rw [platformMatches, hsole.pinnedPlatform?, if_neg hopen] at hplatform
    cases hoffers : offered.platform? with
    | none => simp [hoffers] at hplatform
    | some platform => exact ⟨platform, rfl, by simpa only [hoffers] using hplatform⟩
  case anyPlatform =>
    intro key value hsole hcovered stated
    have hnone : requested.pinnedPlatform? = none := by rw [hsole.pinnedPlatform?, if_pos hcovered]
    exact accepted_insert (by decide) haccepted
      (by rw [standardMatch_insert_platform hnone, hmatch])
  case screen =>
    rintro defaults rfl key spelling value hsole hopen
    rw [screenResolution?_of_fleet haccepted, hsole.screenResolution?_namespaced, if_neg hopen,
      Option.getD_some]
  case defaultScreen =>
    rintro defaults rfl key spelling value hsole hhidden
    rw [screenResolution?_of_fleet haccepted, hsole.screenResolution?_namespaced, if_pos hhidden,
      Option.getD_none]

/-- A node with Chrome on Linux and the screen of the defaults. -/
def defaultNode : Capabilities :=
  .ofList [("browserName", .str "chrome"), ("version", .str "120.0"), ("platform", .str "LINUX"),
    ("screenResolution", .str "1920x1080"), ("tz", .str "UTC")]

/-- What is read under the first spelling is honoured, and what is read under a later one as well
where nothing stands in front of it. -/
theorem pinned_honoured_chrome :
    let requested : Capabilities := .ofList [("browserName", .str "chrome"),
      ("version", .null), ("browserVersion", .str " 120.0"), ("platformName", .str "linux"),
      ("resolution", .str "1920x1080")]
    (Matcher.fleet {}).Compares defaultNode ∧
      ((Matcher.fleet {}).judge .empty defaultNode requested).accepted = true ∧
      Sole requested.text? isPin versionKeys "browserVersion" " 120.0" ∧
      ¬Covered requested.text? versionKeys "browserVersion" ∧
      (Matcher.fleet {}).Honours .empty defaultNode requested := by
  have hcompares : (Matcher.fleet {}).Compares defaultNode := by decide +kernel
  refine ⟨hcompares, by decide +kernel, by decide +kernel, by decide +kernel, ?_⟩
  exact pinned_honoured hcompares (by decide +kernel)

/-- A blank version, the platform `ANY` and a blank resolution each hide what the request insists
on, and the node that is accepted has another version, another platform and another screen. -/
theorem pinned_hidden :
    let byVersion : Capabilities := .ofList [("browserName", .str "chrome"), ("version", .str ""),
      ("browserVersion", .str "99.0")]
    let byPlatform : Capabilities := .ofList [("browserName", .str "chrome"),
      ("platform", .str "ANY"), ("platformName", .str "WINDOWS")]
    let byScreen : Capabilities := .ofList [("browserName", .str "chrome"),
      ("screenResolution", .str " "), ("resolution", .str "1280x720")]
    (Sole byVersion.text? isPin versionKeys "browserVersion" "99.0" ∧
      (Matcher.standard.judge .empty defaultNode byVersion).accepted = true ∧
      defaultNode.version?.map Text.trim ≠ some (Text.trim "99.0")) ∧
    (Sole byPlatform.text? isPin platformKeys "platformName" "WINDOWS" ∧
      (Matcher.standard.judge .empty defaultNode byPlatform).accepted = true ∧
      defaultNode.platform? = some "LINUX" ∧
      PlatformFamily.satisfies "LINUX" "WINDOWS" = false) ∧
    (byScreen.SoleScreen "resolution" "resolution" "1280x720" ∧
      ((Matcher.fleet {}).judge .empty defaultNode byScreen).accepted = true ∧
      defaultNode.namespaced.screenResolution? = some "1920x1080") := by
  decide +kernel

end Matcher

end BrowserGrid
