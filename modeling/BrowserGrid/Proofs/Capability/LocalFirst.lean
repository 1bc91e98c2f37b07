import BrowserGrid.Proofs.Capability.Sightings
import BrowserGrid.Proofs.Text.Spelling

/-!
# What the fleet takes, the cloud declines

A slot of the fleet that states a version of a tracked browser on Linux puts that version into the
table when it is looked at.  A request that such a slot takes can be served by the fleet as the
table then knows it: the browsers are told apart without their case, the version that is insisted on
is the one that was noted, and what Linux under another spelling satisfies, Linux satisfies.  So no
slot of the cloud takes it from then on (`cloud_declines`).
-/

namespace BrowserGrid

namespace PlatformFamily

theorem of?_eq {platform : String} (h : Text.sameIgnoringCase (Text.trim platform) "LINUX" = true) :
    of? platform = some .linux := by
  have hupper : Text.upper (Text.trim platform) = "LINUX" := by
    have hlower : Text.lower (Text.trim platform) = Text.lower "LINUX" := eq_of_beq h
    rw [Text.upper_eq_of_lower_eq hlower]
    decide +kernel
  rw [of?, hupper]
  decide

/-- Linux satisfies what Linux under another spelling satisfies. -/
theorem satisfies_linux {platform wanted : String}
    (h : Text.sameIgnoringCase (Text.trim platform) "LINUX" = true)
    (hsatisfies : satisfies platform wanted = true) : satisfies "LINUX" wanted = true := by
  have hlinux : of? "LINUX" = some .linux := of?_eq (by decide +kernel)
  have htrim : Text.trim "LINUX" = "LINUX" := by decide +kernel
  have hlower : Text.lower (Text.trim platform) = Text.lower "LINUX" := eq_of_beq h
  unfold satisfies at hsatisfies ⊢
  rw [of?_eq h, Text.sameIgnoringCase, hlower] at hsatisfies
  rw [hlinux, Text.sameIgnoringCase, htrim]
  exact hsatisfies

end PlatformFamily

namespace Versions

theorem browserKey_eq {name wanted : String} (h : Text.sameIgnoringCase name wanted = true) :
    browserKey (Text.lower name) = browserKey wanted := by
  have hlower : Text.lower name = Text.lower wanted := eq_of_beq h
  rw [browserKey, browserKey, Text.trim_lower, Text.lower_lower, ← Text.trim_lower, hlower,
    Text.trim_lower]

/-- An offer as nodes of the fleet announce it: a version of a tracked browser, on Linux. -/
structure LinuxOffer (offered : Capabilities) : Prop where
  browser : ∃ name, offered.browserName? = some name ∧ Text.lower name ∈ tracked
  version : ∃ version, offered.version? = some version ∧ Text.trim version ≠ ""
  platform : ∃ platform, offered.platform? = some platform ∧
    Text.sameIgnoringCase (Text.trim platform) "LINUX" = true

variable {offered requested : Capabilities}

/-- The version of such an offer is noted for everyone who asks for its browser. -/
theorem LinuxOffer.latest?_observe (h : LinuxOffer offered) (table : Versions)
    {name version wanted : String} (hname : offered.browserName? = some name)
    (hversion : offered.version? = some version)
    (hsame : Text.sameIgnoringCase name wanted = true) :
    (table.observe offered).latest? wanted = some (Text.trim version) := by
  obtain ⟨name', hname', htracked⟩ := h.browser
  obtain ⟨version', hversion', hstated⟩ := h.version
  cases hname.symm.trans hname'
  cases hversion.symm.trans hversion'
  have htrimmed : Text.trimmed? version = some (Text.trim version) :=
    Text.trimmed?_eq_some_iff.2 ⟨rfl, hstated⟩
  have hsighting : sighting? offered = some (Text.lower name, Text.trim version) := by
    simp [sighting?, hname, hversion, htrimmed, htracked]
  have hkept : stated? (browserKey wanted) offered = some (Text.trim version) := by
    rw [stated?, hsighting, Option.bind_some]
    exact if_pos (browserKey_eq hsame)
  rw [latest?, get?_observe, hkept, Option.some_or]

/-- What such an offer serves, the fleet can serve once the offer has been looked at. -/
theorem LinuxOffer.canServe_observe (h : LinuxOffer offered) (table : Versions)
    (hnamed : requested.browserName?.isSome = true)
    (hmatch : standardMatch offered requested = true) :
    (table.observe offered).canServe requested = true := by
  obtain ⟨wanted, hwanted⟩ := Option.isSome_iff_exists.1 hnamed
  obtain ⟨name, hname, -⟩ := h.browser
  obtain ⟨version, hversion, -⟩ := h.version
  obtain ⟨platform, hplatform, hlinux⟩ := h.platform
  simp only [standardMatch, Bool.and_eq_true] at hmatch
  obtain ⟨⟨⟨hbrowsers, hversions⟩, hplatforms⟩, -⟩ := hmatch
  have hsame : Text.sameIgnoringCase name wanted = true := by
    simpa only [browserMatches, hwanted, hname] using hbrowsers
  have hknown := h.latest?_observe table hname hversion hsame
  rw [canServe, hwanted, Option.bind_some, hknown]
  refine Bool.and_eq_true_iff.2 ⟨?_, ?_⟩
  · cases hpinned : requested.pinnedVersion? with
    | none => rfl
    | some pinned =>
      have hequal : Text.trim version = Text.trim pinned := by
        simpa [versionMatches, hpinned, hversion] using hversions
      simp [hequal]
  · cases hpinned : requested.pinnedPlatform? with
    | none => rfl
    | some pinned =>
      have hsatisfies : PlatformFamily.satisfies platform pinned = true := by
        simpa only [platformMatches, hpinned, hplatform] using hplatforms
      exact PlatformFamily.satisfies_linux hlinux hsatisfies

theorem LinuxOffer.namespaced (h : LinuxOffer offered) : LinuxOffer offered.namespaced where
  browser := by simpa using h.browser
  version := by simpa using h.version
  platform := by simpa using h.platform

/-- Whoever is accepted by the fleet names a browser and is served by the offer. -/
theorem standardMatch_of_fleet {defaults : FleetDefaults} {table : Versions}
    (h : ((Matcher.fleet defaults).judge table offered requested).accepted = true) :
    requested.browserName?.isSome = true ∧
      standardMatch offered.namespaced requested.namespaced = true := by
  unfold Matcher.judge Matcher.fleetJudge at h
  dsimp only at h
  split at h
  · cases h
  · rename_i wanted hwanted
    rw [Capabilities.browserName?_namespaced] at hwanted
    simp only [Bool.and_eq_true] at h
    exact ⟨by rw [hwanted]; rfl, h.1.1⟩

theorem fleet_requested (defaults : FleetDefaults) (table : Versions)
    (offered requested : Capabilities) :
    ((Matcher.fleet defaults).judge table offered requested).requested = requested.namespaced := by
  simp only [Matcher.judge, Matcher.fleetJudge, Capabilities.browserName?_namespaced]
  cases requested.browserName? with
  | none => simp only
  | some wanted => simp only

/-- Once a slot of the fleet on Linux has taken a request, the table that this leaves says that the
fleet can serve the request, and no slot of the cloud takes it, before or after its custom keys were
moved. -/
theorem cloud_declines (defaults : FleetDefaults) (table : Versions) (hoffer : LinuxOffer offered)
    (haccepted : ((Matcher.fleet defaults).judge table offered requested).accepted = true) :
    let left := (Matcher.fleet defaults).judge table offered requested
    ∀ asked, asked = requested ∨ asked = left.requested →
      left.versions.canServe asked = true ∧
        ∀ other, (Matcher.cloud.judge left.versions other asked).accepted = false := by
  obtain ⟨hnamed, hmatch⟩ := standardMatch_of_fleet haccepted
  dsimp only
  rw [fleet_versions, if_pos hnamed, fleet_requested, ← observe_namespaced]
  have hcan : (table.observe offered.namespaced).canServe requested = true := by
    rw [← canServe_namespaced]
    exact hoffer.namespaced.canServe_observe table (by simpa using hnamed) hmatch
  intro asked hasked
  have hserved : (table.observe offered.namespaced).canServe asked = true := by
    rcases hasked with rfl | rfl
    · exact hcan
    · rw [canServe_namespaced, hcan]
  refine ⟨hserved, fun other => ?_⟩
  rw [cloud_accepted, hserved, Bool.not_true, Bool.and_false]

/-- A node with Chrome on Linux, in spellings of its own. -/
def chromeOffer : Capabilities :=
  .ofList [("browserName", .str " Chrome"), ("version", .str "120.0 "), ("platform", .str "linux"),
    ("screenResolution", .str "1920x1080"), ("tz", .str "UTC")]

/-- A request for that version of Chrome, under the other names of the keys. -/
def chromeRequest : Capabilities :=
  .ofList [("browserName", .str "CHROME"), ("browserVersion", .str "120.0"),
    ("platformName", .str "Linux")]

/-- Another version of Chrome was seen last; it is the call itself that takes the request from the
cloud. -/
theorem cloud_declines_chrome :
    let table := Versions.ofList [("chrome", "99.0")]
    let left := (Matcher.fleet {}).judge table chromeOffer chromeRequest
    table.canServe chromeRequest = false ∧ LinuxOffer chromeOffer ∧ left.accepted = true ∧
      ∀ asked, asked = chromeRequest ∨ asked = left.requested →
        left.versions.canServe asked = true ∧
          ∀ other, (Matcher.cloud.judge left.versions other asked).accepted = false := by
  have hoffer : LinuxOffer chromeOffer :=
    { browser := ⟨"Chrome", by decide +kernel, by decide +kernel⟩
      version := ⟨"120.0 ", by decide +kernel, by decide +kernel⟩
      platform := ⟨"linux", by decide +kernel, by decide +kernel⟩ }
  have haccepted : ((Matcher.fleet {}).judge (Versions.ofList [("chrome", "99.0")]) chromeOffer
      chromeRequest).accepted = true := by
    decide +kernel
  exact ⟨by decide +kernel, hoffer, haccepted, cloud_declines {} _ hoffer haccepted⟩

end Versions

end BrowserGrid
