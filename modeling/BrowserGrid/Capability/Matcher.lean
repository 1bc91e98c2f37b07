import BrowserGrid.Capability.Versions
/-!
# Matching requests with offers

`standardMatch` compares the keys of the automation protocol.  A `Matcher` adds the rules of a kind
of slot: the local fleet also compares screen and time zone and notes the versions it sees, and
cloud slots take only what the local fleet cannot serve.  Both first move the custom keys of the
two maps under their prefix; `Judgement` holds the maps and the table that a call leaves.
-/

namespace BrowserGrid

/-- What a request means when it names no screen and no time zone. -/
structure FleetDefaults where
  /-- The screen resolution. -/
  screenResolution : String := "1920x1080"
  /-- The time zone. -/
  timeZone : String := "UTC"
  deriving DecidableEq, Inhabited

/-! ### The standard keys -/

/-- The requested browser, if any, is the offered one. -/
def browserMatches (offered requested : Capabilities) : Bool :=
  match requested.browserName? with
  | none => true
  | some wanted =>
    match offered.browserName? with
    | some name => Text.sameIgnoringCase name wanted
    | none => false

/-- The version that the request insists on, if any, is the offered one. -/
def versionMatches (offered requested : Capabilities) : Bool :=
  match requested.pinnedVersion? with
  | none => true
  | some wanted => offered.version?.map Text.trim == some (Text.trim wanted)

/-- The platform that the request insists on, if any, is satisfied. -/
def platformMatches (offered requested : Capabilities) : Bool :=
  match requested.pinnedPlatform? with
  | none => true
  | some wanted =>
    match offered.platform? with
    | some platform => PlatformFamily.satisfies platform wanted
    | none => false

/-- The requested application, if any, is the offered one to the letter. -/
def applicationMatches (offered requested : Capabilities) : Bool :=
  match requested.applicationName?.filter (!Text.isBlankText ·) with
  | none => true
  | some wanted => offered.applicationName? == some wanted

/-- The offer has every standard key that the request insists on. -/
def standardMatch (offered requested : Capabilities) : Bool :=
  browserMatches offered requested && versionMatches offered requested &&
    platformMatches offered requested && applicationMatches offered requested

/-! ### The keys of the fleet -/

/-- The offered screen is the requested one, or that of the defaults. -/
def resolutionMatches (defaults : FleetDefaults) (offered requested : Capabilities) : Bool :=
  offered.screenResolution? ==
    some (requested.screenResolution?.getD defaults.screenResolution)

/-- The offered time zone is the requested one, or that of the defaults. -/
def timeZoneMatches (defaults : FleetDefaults) (offered requested : Capabilities) : Bool :=
  offered.timeZone? == some (requested.timeZone?.getD defaults.timeZone)

/-! ### Matchers -/

/-- The rules of a kind of slot. -/
inductive Matcher where
  /-- The standard keys alone. -/
  | standard
  /-- Slots of the local fleet. -/
  | fleet (defaults : FleetDefaults)
  /-- Slots of a cloud provider. -/
  | cloud
  deriving DecidableEq

/-- What a matcher says, and what it leaves behind. -/
structure Judgement where
  /-- Whether the offer serves the request. -/
  accepted : Bool
  /-- The offer as the matcher leaves it. -/
  offered : Capabilities
  /-- The request as the matcher leaves it. -/
  requested : Capabilities
  /-- The table as the matcher leaves it. -/
  versions : Versions

namespace Matcher

/-- The rule of the local fleet, on maps whose custom keys stand under their prefix. -/
def fleetJudge (defaults : FleetDefaults) (versions : Versions)
    (offered requested : Capabilities) : Judgement :=
  match requested.browserName? with
  | none => ⟨false, offered, requested, versions⟩
  | some _ =>
    ⟨standardMatch offered requested && resolutionMatches defaults offered requested &&
      timeZoneMatches defaults offered requested, offered, requested, versions.observe offered⟩

/-- The rule of cloud slots, on maps whose custom keys stand under their prefix. -/
def cloudAccepts (versions : Versions) (offered requested : Capabilities) : Bool :=
  requested.browserName?.isSome && !versions.canServe requested &&
    (offered.browserName?.isNone || standardMatch offered requested)

/-- The judgement of a matcher. -/
def judge (m : Matcher) (versions : Versions) (offered requested : Capabilities) : Judgement :=
  match m with
  | .standard => ⟨standardMatch offered requested, offered, requested, versions⟩
  | .fleet defaults => fleetJudge defaults versions offered.namespaced requested.namespaced
  | .cloud =>
    ⟨cloudAccepts versions offered.namespaced requested.namespaced, offered.namespaced,
      requested.namespaced, versions⟩

end Matcher

end BrowserGrid
