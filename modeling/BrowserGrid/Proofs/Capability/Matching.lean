import BrowserGrid.Capability.Matcher

/-!
# What the matchers of the fleet and of the cloud say to one request

The matcher of the fleet compares a slot's offer with the request; the matcher of the cloud looks
the request up in the table of the versions last seen.  Moving the custom keys under their prefix
changes none of the keys that the table is about, so both speak of the same browser, version and
platform.  Where a slot of the fleet takes a request and the table says that the fleet cannot serve
it, the table misses the slot in one of three ways (`Versions.Misses`, `misses_of_fleet`).
-/

namespace BrowserGrid

namespace Capabilities

/-! ### What moving the custom keys leaves alone -/

theorem get?_moveKey {key k : String} (hk : k ≠ key) (hp : k ≠ prefixed key) (c : Capabilities) :
    (c.moveKey key).get? k = c.get? k := by
  unfold moveKey
  split
  · rfl
  · rename_i value _
    show ((c.values.erase key).insertNew (prefixed key) value).get? k = c.values.get? k
    have herase : (c.values.erase key).get? k = c.values.get? k := by
      rw [KeyMap.get?_erase, if_neg hk]
    unfold KeyMap.insertNew
    split
    · exact herase
    · rw [KeyMap.get?_insert, if_neg hp, herase]

/-- Whether a name is neither a custom key nor one under the prefix. -/
def IsStandard (k : String) : Prop := ∀ key ∈ customKeys, k ≠ key ∧ k ≠ prefixed key

instance (k : String) : Decidable (IsStandard k) :=
  inferInstanceAs (Decidable (∀ key ∈ customKeys, k ≠ key ∧ k ≠ prefixed key))

theorem get?_foldl_moveKey {k : String} {keys : List String}
    (hkeys : ∀ key ∈ keys, k ≠ key ∧ k ≠ prefixed key) (c : Capabilities) :
    (keys.foldl moveKey c).get? k = c.get? k := by
  induction keys generalizing c with
  | nil => rfl
  | cons key keys ih =>
    obtain ⟨hne, hp⟩ := hkeys key List.mem_cons_self
    rw [List.foldl_cons, ih fun key hkey => hkeys key (List.mem_cons_of_mem _ hkey),
      get?_moveKey hne hp]

theorem get?_namespaced {k : String} (hk : IsStandard k) (c : Capabilities) :
    c.namespaced.get? k = c.get? k :=
  get?_foldl_moveKey hk c

theorem text?_namespaced {k : String} (hk : IsStandard k) (c : Capabilities) :
    c.namespaced.text? k = c.text? k := by
  rw [text?, get?_namespaced hk, text?]

/-- Names that read alike one by one read alike together. -/
theorem findSome?_congr {read read' : String → Option String} {keys : List String}
    (h : ∀ key ∈ keys, read key = read' key) : keys.findSome? read = keys.findSome? read' := by
  induction keys with
  | nil => rfl
  | cons key keys ih =>
    rw [List.findSome?_cons, List.findSome?_cons, h key List.mem_cons_self,
      ih fun key hkey => h key (List.mem_cons_of_mem _ hkey)]

theorem firstOf?_namespaced {keys : List String} (hkeys : ∀ k ∈ keys, IsStandard k)
    (c : Capabilities) : c.namespaced.firstOf? keys = c.firstOf? keys :=
  findSome?_congr fun k hk => text?_namespaced (hkeys k hk) c

@[simp] theorem browserName?_namespaced (c : Capabilities) :
    c.namespaced.browserName? = c.browserName? := by
  rw [browserName?, text?_namespaced (by decide), browserName?]

@[simp] theorem version?_namespaced (c : Capabilities) : c.namespaced.version? = c.version? :=
  firstOf?_namespaced (by decide) c

@[simp] theorem platform?_namespaced (c : Capabilities) : c.namespaced.platform? = c.platform? :=
  firstOf?_namespaced (by decide) c

@[simp] theorem pinnedVersion?_namespaced (c : Capabilities) :
    c.namespaced.pinnedVersion? = c.pinnedVersion? := by
  rw [pinnedVersion?, version?_namespaced, pinnedVersion?]

@[simp] theorem pinnedPlatform?_namespaced (c : Capabilities) :
    c.namespaced.pinnedPlatform? = c.pinnedPlatform? := by
  rw [pinnedPlatform?, platform?_namespaced, pinnedPlatform?]

end Capabilities

/-! ### What the table misses -/

namespace Versions

@[simp] theorem canServe_namespaced (table : Versions) (requested : Capabilities) :
    table.canServe requested.namespaced = table.canServe requested := by
  simp only [canServe, Capabilities.browserName?_namespaced,
    Capabilities.pinnedVersion?_namespaced, Capabilities.pinnedPlatform?_namespaced]

/-- The offer has the browser, the version or the platform that the request asks for, and the
verdict by the table is another: the browser has no entry, another version stands there, or the
platform is not Linux. -/
inductive Misses (table : Versions) (offered requested : Capabilities) : Prop where
  /-- The browser that is offered does not stand in the table. -/
  | browser {name wanted : String} (hoffered : offered.browserName? = some name)
    (hwanted : requested.browserName? = some wanted)
    (hsame : Text.sameIgnoringCase name wanted = true) (hnone : table.latest? wanted = none)
  /-- The version that is insisted on is offered, but another one was seen last. -/
  | version {wanted version known : String} (hwanted : requested.browserName? = some wanted)
    (hversion : requested.pinnedVersion? = some version)
    (hoffered : offered.version?.map Text.trim = some (Text.trim version))
    (hknown : table.latest? wanted = some known) (hother : Text.trim known ≠ Text.trim version)
  /-- The platform that is insisted on is offered, but it is not Linux. -/
  | platform {platform known : String} (hplatform : requested.pinnedPlatform? = some platform)
    (hoffered : offered.platform? = some known)
    (hsatisfies : PlatformFamily.satisfies known platform = true)
    (hlinux : PlatformFamily.satisfies "LINUX" platform = false)

theorem misses_of_standardMatch {table : Versions} {offered requested : Capabilities}
    (hsome : requested.browserName?.isSome = true)
    (hmatch : standardMatch offered requested = true)
    (hcannot : table.canServe requested = false) : table.Misses offered requested := by
  obtain ⟨wanted, hwanted⟩ := Option.isSome_iff_exists.1 hsome
  simp only [standardMatch, Bool.and_eq_true] at hmatch
  obtain ⟨⟨⟨hbrowser, hversion⟩, hplatform⟩, -⟩ := hmatch
  rw [canServe, hwanted, Option.bind_some] at hcannot
  -- the table says no for one of three reasons: no entry, the version that is pinned, the platform
  cases hknown : table.latest? wanted with
  | none =>
    rw [browserMatches, hwanted] at hbrowser
    cases hname : offered.browserName? with
    | none => simp [hname] at hbrowser
    | some name => exact .browser hname hwanted (by simpa [hname] using hbrowser) hknown
  | some known =>
    rw [hknown] at hcannot
    rcases Bool.and_eq_false_iff.1 hcannot with hother | hlinux
    · cases hwants : requested.pinnedVersion? with
      | none => simp [hwants] at hother
      | some version =>
        rw [versionMatches, hwants] at hversion
        rw [hwants] at hother
        exact .version hwanted hwants (by simpa using hversion) hknown (by simpa using hother)
    · cases hwants : requested.pinnedPlatform? with
      | none => simp [hwants] at hlinux
      | some platform =>
        rw [platformMatches, hwants] at hplatform
        rw [hwants] at hlinux
        cases hoffers : offered.platform? with
        | none => simp [hoffers] at hplatform
        | some offers => exact .platform hwants hoffers (by simpa [hoffers] using hplatform) hlinux

theorem Misses.of_namespaced {table : Versions} {offered requested : Capabilities}
    (h : table.Misses offered.namespaced requested.namespaced) : table.Misses offered requested := by
  cases h with
  | browser hoffered hwanted hsame hnone =>
    rw [Capabilities.browserName?_namespaced] at hoffered hwanted
    exact .browser hoffered hwanted hsame hnone
  | version hwanted hversion hoffered hknown hother =>
    rw [Capabilities.browserName?_namespaced] at hwanted
    rw [Capabilities.pinnedVersion?_namespaced] at hversion
    rw [Capabilities.version?_namespaced] at hoffered
    exact .version hwanted hversion hoffered hknown hother
  | platform hplatform hoffered hsatisfies hlinux =>
    rw [Capabilities.pinnedPlatform?_namespaced] at hplatform
    rw [Capabilities.platform?_namespaced] at hoffered
    exact .platform hplatform hoffered hsatisfies hlinux

/-- A slot of the fleet takes a request, whatever the table was then, and the table says that the
fleet cannot serve it. -/
theorem misses_of_fleet {defaults : FleetDefaults} {table table' : Versions}
    {offered requested : Capabilities}
    (haccepted : ((Matcher.fleet defaults).judge table' offered requested).accepted = true)
    (hcannot : table.canServe requested = false) : table.Misses offered requested := by
  refine .of_namespaced ?_
  unfold Matcher.judge Matcher.fleetJudge at haccepted
  dsimp only at haccepted
  split at haccepted
  · cases haccepted
  · rename_i wanted hwanted
    simp only [Bool.and_eq_true] at haccepted
    exact misses_of_standardMatch (by rw [hwanted]; rfl) haccepted.1.1 (by simpa using hcannot)

/-- A slot of the cloud takes only what the table says that the fleet cannot serve. -/
theorem canServe_eq_false_of_cloud {table : Versions} {offered requested : Capabilities}
    (haccepted : (Matcher.cloud.judge table offered requested).accepted = true) :
    table.canServe requested = false := by
  simp only [Matcher.judge, Matcher.cloudAccepts, Bool.and_eq_true, Bool.not_eq_true',
    canServe_namespaced] at haccepted
  exact haccepted.1.2

/-- The table has no say in what a slot of the fleet takes. -/
theorem fleet_accepted_eq (defaults : FleetDefaults) (table table' : Versions)
    (offered requested : Capabilities) :
    ((Matcher.fleet defaults).judge table offered requested).accepted =
      ((Matcher.fleet defaults).judge table' offered requested).accepted := by
  unfold Matcher.judge Matcher.fleetJudge
  dsimp only
  split <;> rfl

end Versions

end BrowserGrid
