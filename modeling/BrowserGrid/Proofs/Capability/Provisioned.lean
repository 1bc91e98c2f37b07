import BrowserGrid.Proofs.Capability.Namespacing
import BrowserGrid.Proofs.Capability.LocalFirst
import BrowserGrid.Provisioner
import BrowserGrid.Proxy.Node

/-!
# Whether a node serves the request it was started for

A node is told by its environment what to run, and announces just that (`announcement`).  Where the
table says that the fleet can serve the request, the slot has the browser, the version and the
platform that the request insists on (`Tells.standardMatch_complete`).  Screen and time zone are
compared letter by letter.  The size of the screen has been read from the request and printed again
on the way, and a time zone of the defaults has been trimmed: the slot serves the request exactly if
both were written that way from the start (`startedNode_serves_own_iff`).
-/

namespace BrowserGrid

namespace Capabilities

theorem get?_insert (c : Capabilities) (key k : String) (value : Json) :
    (c.insert key value).get? k = if k = key then some value else c.get? k :=
  KeyMap.get?_insert ..

theorem custom?_insert_prefixed (c : Capabilities) (key text : String) :
    (c.insert (prefixed key) (.str text)).custom? key = some text := by
  rw [custom?, text?, get?_insert, if_pos rfl]
  rfl

theorem custom?_insert_of_ne {c : Capabilities} {key other : String} (hne : key ≠ other)
    (hplain : key ≠ prefixed other) (value : Json) :
    (c.insert (prefixed other) value).custom? key = c.custom? key := by
  have hprefixed : prefixed key ≠ prefixed other := fun h => hne (prefixed_injective h)
  rw [custom?, text?, text?, get?_insert, get?_insert, if_neg hprefixed, if_neg hplain]
  rfl

theorem screenResolution?_insert_zone (c : Capabilities) (value : Json) :
    (c.insert (prefixed "tz") value).screenResolution? = c.screenResolution? := by
  have hcustom : ∀ key ∈ resolutionKeys,
      (c.insert (prefixed "tz") value).custom? key = c.custom? key := by
    intro key hkey
    have hne : ∀ key ∈ resolutionKeys, key ≠ "tz" ∧ key ≠ prefixed "tz" := by decide
    exact custom?_insert_of_ne (hne key hkey).1 (hne key hkey).2 value
  simp only [resolutionKeys, List.forall_mem_cons] at hcustom
  simp only [screenResolution?, resolutionKeys, List.findSome?_cons, List.findSome?_nil, hcustom]

end Capabilities

open Capabilities

/-! ### The slots of a node -/

namespace FleetDefaults

/-- The capabilities with the screen of the defaults, unless they state one. -/
def withScreen (defaults : FleetDefaults) (c : Capabilities) : Capabilities :=
  if c.screenResolution?.isNone then
    c.insert (prefixed "screenResolution") (.str defaults.screenResolution)
  else c

/-- The capabilities with the time zone of the defaults, unless they state one. -/
def withZone (defaults : FleetDefaults) (c : Capabilities) : Capabilities :=
  if c.timeZone?.isNone then c.insert (prefixed "tz") (.str defaults.timeZone) else c

variable (defaults : FleetDefaults) (c announced : Capabilities)

theorem complete_eq :
    defaults.complete announced = defaults.withZone (defaults.withScreen announced.namespaced) :=
  rfl

theorem get?_complete_of_ne {k : String} (hscreen : k ≠ prefixed "screenResolution")
    (hzone : k ≠ prefixed "tz") :
    (defaults.complete announced).get? k = announced.namespaced.get? k := by
  rw [complete_eq, withZone, withScreen]
  split <;> split <;> simp [get?_insert, hscreen, hzone]

theorem get?_complete {k : String} (hk : IsStandard k) :
    (defaults.complete announced).get? k = announced.get? k := by
  have hscreen := (hk "screenResolution" (by decide)).2
  have hzone := (hk "tz" (by decide)).2
  rw [get?_complete_of_ne defaults announced hscreen hzone, get?_namespaced hk]

/-- The custom keys of a slot stand under their prefix already. -/
theorem namespaced_complete :
    (defaults.complete announced).namespaced = defaults.complete announced := by
  refine namespaced_of_absent fun key hkey => ?_
  have hne : ∀ other ∈ customKeys, key ≠ prefixed other := plain_customKeys key hkey
  rw [get?_complete_of_ne defaults announced (hne _ (by decide)) (hne _ (by decide)),
    get?_namespaced_plain hkey]

theorem screenResolution?_withScreen :
    (defaults.withScreen c).screenResolution? =
      c.screenResolution?.or (Text.trimmed? defaults.screenResolution) := by
  unfold withScreen
  cases hscreen : c.screenResolution? with
  | some screen => simp [hscreen]
  | none =>
    rw [if_pos Option.isNone_none, Option.none_or, screenResolution?, resolutionKeys,
      List.findSome?_cons, custom?_insert_prefixed]
    simp only [Option.bind_some]

theorem timeZone?_withScreen : (defaults.withScreen c).timeZone? = c.timeZone? := by
  unfold withScreen
  split
  · rw [timeZone?, custom?_insert_of_ne (by decide) (by decide), timeZone?]
  · rfl

theorem screenResolution?_withZone : (defaults.withZone c).screenResolution? = c.screenResolution? := by
  unfold withZone
  split
  · exact screenResolution?_insert_zone c _
  · rfl

theorem timeZone?_withZone :
    (defaults.withZone c).timeZone? = c.timeZone?.or (Text.trimmed? defaults.timeZone) := by
  unfold withZone
  cases hzone : c.timeZone? with
  | some zone => simp [hzone]
  | none =>
    rw [if_pos Option.isNone_none, Option.none_or, timeZone?, custom?_insert_prefixed,
      Option.bind_some]

/-- A slot without a screen of its own has that of the defaults. -/
theorem screenResolution?_complete :
    (defaults.complete announced).screenResolution? =
      announced.namespaced.screenResolution?.or (Text.trimmed? defaults.screenResolution) := by
  rw [complete_eq, screenResolution?_withZone, screenResolution?_withScreen]

/-- A slot without a time zone of its own has that of the defaults. -/
theorem timeZone?_complete :
    (defaults.complete announced).timeZone? =
      announced.namespaced.timeZone?.or (Text.trimmed? defaults.timeZone) := by
  rw [complete_eq, timeZone?_withZone, timeZone?_withScreen]

end FleetDefaults

/-! ### The size of a screen as text -/

/-- A resolution: the width and the height, and a letter between them. -/
def resolutionText (size : Nat × Nat) : String := toString size.1 ++ "x" ++ toString size.2

theorem toList_resolutionText (size : Nat × Nat) :
    (resolutionText size).toList = (toString size.1).toList ++ 'x' :: (toString size.2).toList := by
  rw [resolutionText, String.toList_append, String.toList_append, List.append_assoc]
  rfl

theorem trimmed?_resolutionText (size : Nat × Nat) :
    Text.trimmed? (resolutionText size) = some (resolutionText size) := by
  refine Text.trimmed?_eq_some_iff.2 ⟨Text.trim_of_unblank fun c hc => ?_, fun hempty => ?_⟩
  · rw [toList_resolutionText, List.mem_append, List.mem_cons] at hc
    rcases hc with hc | rfl | hc
    · exact Text.isBlank_of_isDigit (Text.isDigit_of_mem_toString hc)
    · decide
    · exact Text.isBlank_of_isDigit (Text.isDigit_of_mem_toString hc)
  · have hlist := congrArg String.toList hempty
    rw [toList_resolutionText] at hlist
    simp at hlist

theorem trim_toString (n : Nat) : Text.trim (toString n) = toString n :=
  Text.trim_of_unblank fun _ hc => Text.isBlank_of_isDigit (Text.isDigit_of_mem_toString hc)

/-- A size is read back from its text. -/
theorem dimensionsOf?_resolutionText {size : Nat × Nat} (hwidth : size.1 ≤ Text.maxWord)
    (hheight : size.2 ≤ Text.maxWord) : dimensionsOf? (resolutionText size) = some size := by
  have hcut : Text.cutAt? (fun ch => ch = 'x' || ch = 'X') (resolutionText size) =
      some (toString size.1, toString size.2) := by
    rw [Text.cutAt?, toList_resolutionText, Text.cutAtList_append _ (by decide)]
    · simp only [Option.map_some, String.ofList_toList]
    · intro c hc
      have hdigit := Text.isDigit_of_mem_toString hc
      have hlower : c ≠ 'x' := by
        rintro rfl
        exact absurd hdigit (by decide)
      have hupper : c ≠ 'X' := by
        rintro rfl
        exact absurd hdigit (by decide)
      simp [hlower, hupper]
  rw [dimensionsOf?, hcut]
  simp only [Option.bind_eq_bind, Option.bind_some, trim_toString, Text.natural?_toString hwidth,
    Text.natural?_toString hheight, Option.pure_def]

/-- No number of a resolution that can be read is too large. -/
theorem le_of_dimensionsOf? {resolution : String} {size : Nat × Nat}
    (h : dimensionsOf? resolution = some size) :
    size.1 ≤ Text.maxWord ∧ size.2 ≤ Text.maxWord := by
  simp only [dimensionsOf?, Option.bind_eq_bind, Option.bind_eq_some_iff, Option.pure_def,
    Option.some.injEq] at h
  obtain ⟨parts, -, width, hwidth, height, hheight, rfl⟩ := h
  exact ⟨Text.le_of_natural? hwidth, Text.le_of_natural? hheight⟩

/-! ### What a node announces -/

namespace Capabilities

/-- The capabilities with a text under a name, if there is one. -/
def stating (c : Capabilities) (key : String) : Option String → Capabilities
  | some text => c.insert key (.str text)
  | none => c

theorem get?_stating (c : Capabilities) (key k : String) (text? : Option String) :
    (c.stating key text?).get? k = if k = key then (text?.map .str).or (c.get? k) else c.get? k := by
  cases text? with
  | none => simp [stating]
  | some text => simp [stating, get?_insert]

end Capabilities

/-- What a node announces that runs in an environment: the browser, the screen and the time zone it
was told, and the version of that browser, as the fleet has it. -/
def announcement (versions : Versions) (env : KeyMap String) : Capabilities :=
  let browser := env.get? "BROWSER"
  let version := (browser.bind versions.latest?).filter fun version =>
    (Text.trimmed? version).isSome
  let screen := (env.get? "SCREEN_WIDTH").bind fun width =>
    (env.get? "SCREEN_HEIGHT").map fun height => width ++ "x" ++ height
  (Capabilities.empty.insert "platform" (.str "LINUX")).stating "browserName" browser
    |>.stating "version" version
    |>.stating "screenResolution" screen
    |>.stating "tz" (env.get? "TZ")

/-- The variables of its environment that a node announces. -/
def announcedVars : List String := ["SCREEN_WIDTH", "SCREEN_HEIGHT", "TZ", "BROWSER"]

/-- An environment that tells a node what to announce. -/
structure Tells (env : KeyMap String) (browser : String) (size : Nat × Nat) (zone : String) :
    Prop where
  browser : env.get? "BROWSER" = some browser
  width : env.get? "SCREEN_WIDTH" = some (toString size.1)
  height : env.get? "SCREEN_HEIGHT" = some (toString size.2)
  zone : env.get? "TZ" = some zone

/-- The port of the screen aside, a node is told what the request asks for. -/
theorem Provisioner.tells_nodeEnv (p : Provisioner) (defaults : FleetDefaults) {screenVar : String}
    (hvar : screenVar ∉ announcedVars) {requested : Capabilities} {wanted : String}
    (hwanted : requested.browserName? = some wanted) :
    Tells (p.nodeEnv defaults screenVar requested) (Text.lower wanted) (screen defaults requested)
      (requested.timeZone?.getD defaults.timeZone) := by
  simp only [announcedVars, List.mem_cons, List.not_mem_nil, or_false, not_or] at hvar
  obtain ⟨hwidth, hheight, hzone, hbrowser⟩ := hvar
  constructor <;>
    simp [nodeEnv, KeyMap.ofList, KeyMap.get?_insert, hwanted, Ne.symm hwidth, Ne.symm hheight,
      Ne.symm hzone, Ne.symm hbrowser]

variable {versions : Versions} {env : KeyMap String} {browser zone : String} {size : Nat × Nat}

namespace Tells

theorem get?_announcement (h : Tells env browser size zone) (k : String) :
    (announcement versions env).get? k =
      if k = "tz" then some (.str zone)
      else if k = "screenResolution" then some (.str (resolutionText size))
      else if k = "version" then
        ((versions.latest? browser).filter fun version => (Text.trimmed? version).isSome).map .str
      else if k = "browserName" then some (.str browser)
      else if k = "platform" then some (.str "LINUX")
      else none := by
  have hempty : Capabilities.empty.get? k = none := rfl
  simp only [announcement, get?_stating, get?_insert, h.browser, h.width, h.height, h.zone,
    Option.bind_some, Option.map_some, Option.some_or, hempty, resolutionText]
  -- where no version is known, nothing else stands under its name
  split_ifs <;> simp_all

/-- A node knows nothing of the prefix. -/
theorem custom?_announcement (h : Tells env browser size zone) {key : String}
    (hkey : key ∈ customKeys) :
    (announcement versions env).namespaced.custom? key = (announcement versions env).text? key := by
  have hprefixed : (announcement versions env).get? (prefixed key) = none := by
    have hnames : ∀ key ∈ customKeys, prefixed key ≠ "tz" ∧ prefixed key ≠ "screenResolution" ∧
        prefixed key ≠ "version" ∧ prefixed key ≠ "browserName" ∧ prefixed key ≠ "platform" := by
      decide
    rw [h.get?_announcement]
    simp [hnames key hkey]
  rw [custom?_namespaced hkey, hprefixed, Option.none_or, text?]

theorem browserName?_announcement (h : Tells env browser size zone) :
    (announcement versions env).browserName? = Text.trimmed? browser := by
  rw [browserName?, text?, h.get?_announcement]
  simp [valueText?]

theorem version?_announcement (h : Tells env browser size zone) :
    (announcement versions env).version? =
      (versions.latest? browser).filter fun version => (Text.trimmed? version).isSome := by
  have hother : (announcement versions env).text? "browserVersion" = none := by
    rw [text?, h.get?_announcement]
    simp
  have hversion : (announcement versions env).text? "version" =
      (versions.latest? browser).filter fun version => (Text.trimmed? version).isSome := by
    rw [text?, h.get?_announcement, if_neg (by decide), if_neg (by decide), if_pos rfl]
    cases (versions.latest? browser).filter _ <;> rfl
  rw [version?, firstOf?, versionKeys, List.findSome?_cons, List.findSome?_cons, hversion, hother]
  cases (versions.latest? browser).filter _ <;> rfl

theorem platform?_announcement (h : Tells env browser size zone) :
    (announcement versions env).platform? = some "LINUX" := by
  have hstated : (announcement versions env).text? "platform" = some "LINUX" := by
    rw [text?, h.get?_announcement]
    simp [valueText?]
  rw [platform?, firstOf?, platformKeys, List.findSome?_cons, hstated]

theorem screenResolution?_announcement (h : Tells env browser size zone) :
    (announcement versions env).namespaced.screenResolution? = some (resolutionText size) := by
  have hstated : (announcement versions env).text? "screenResolution" =
      some (resolutionText size) := by
    rw [text?, h.get?_announcement, if_neg (by decide), if_pos rfl, Option.bind_some, valueText?]
  rw [screenResolution?, resolutionKeys, List.findSome?_cons, h.custom?_announcement (by decide),
    hstated]
  simp only [Option.bind_some, trimmed?_resolutionText]

theorem timeZone?_announcement (h : Tells env browser size zone) :
    (announcement versions env).namespaced.timeZone? = Text.trimmed? zone := by
  have hstated : (announcement versions env).text? "tz" = some zone := by
    rw [text?, h.get?_announcement, if_pos rfl, Option.bind_some, valueText?]
  rw [timeZone?, h.custom?_announcement (by decide), hstated, Option.bind_some]

end Tells

/-! ### Whether the slot serves the request -/

section Slot

variable (defaults : FleetDefaults) (announced : Capabilities)

theorem FleetDefaults.text?_complete {k : String} (hk : IsStandard k) :
    (defaults.complete announced).text? k = announced.text? k := by
  rw [text?, get?_complete defaults announced hk, text?]

theorem FleetDefaults.browserName?_complete :
    (defaults.complete announced).browserName? = announced.browserName? := by
  rw [browserName?, text?_complete defaults announced (by decide), browserName?]

theorem FleetDefaults.version?_complete :
    (defaults.complete announced).version? = announced.version? := by
  simp only [version?, firstOf?, versionKeys, List.findSome?_cons, List.findSome?_nil,
    text?_complete defaults announced (show IsStandard "version" by decide),
    text?_complete defaults announced (show IsStandard "browserVersion" by decide)]

theorem FleetDefaults.platform?_complete :
    (defaults.complete announced).platform? = announced.platform? := by
  simp only [platform?, firstOf?, platformKeys, List.findSome?_cons, List.findSome?_nil,
    text?_complete defaults announced (show IsStandard "platform" by decide),
    text?_complete defaults announced (show IsStandard "platformName" by decide)]

variable {requested : Capabilities} {wanted : String}

theorem standardMatch_namespaced (offered : Capabilities) :
    standardMatch offered requested.namespaced = standardMatch offered requested := by
  have happlication : requested.namespaced.applicationName? = requested.applicationName? :=
    text?_namespaced (by decide) requested
  simp only [standardMatch, browserMatches, versionMatches, platformMatches, applicationMatches,
    browserName?_namespaced, pinnedVersion?_namespaced, pinnedPlatform?_namespaced, happlication]

theorem fleet_accepted_of_named (hwanted : requested.browserName? = some wanted)
    (table : Versions) (offered : Capabilities) :
    ((Matcher.fleet defaults).judge table offered requested).accepted =
      (standardMatch offered.namespaced requested.namespaced &&
        resolutionMatches defaults offered.namespaced requested.namespaced &&
        timeZoneMatches defaults offered.namespaced requested.namespaced) := by
  have hnamed : requested.namespaced.browserName? = some wanted := by
    rw [browserName?_namespaced, hwanted]
  simp only [Matcher.judge, Matcher.fleetJudge, hnamed]

/-- A blank version is not insisted on. -/
theorem trim_ne_of_pinnedVersion? {pinned : String} (h : requested.pinnedVersion? = some pinned) :
    Text.trim pinned ≠ "" := by
  intro hempty
  have hwild : isWildcard pinned = false := by
    simpa using (Option.filter_eq_some_iff.1 h).2
  rw [isWildcard, hempty] at hwild
  exact absurd hwild (by decide)

/-- The node has what the table promised: the browser, the version and the platform. -/
theorem Tells.standardMatch_complete (h : Tells env (Text.lower wanted) size zone)
    (hwanted : requested.browserName? = some wanted)
    (hcan : versions.canServe requested = true) (hplain : requested.applicationName? = none) :
    standardMatch (defaults.complete (announcement versions env)) requested = true := by
  have htrim : Text.trimmed? wanted = some wanted := by
    obtain ⟨text, -, htext⟩ := Option.bind_eq_some_iff.1 hwanted
    exact Text.trimmed?_of_trimmed? htext
  have hsame : Text.sameIgnoringCase wanted wanted = true := by
    rw [Text.sameIgnoringCase, beq_self_eq_true]
  have hlatest : versions.latest? (Text.lower wanted) = versions.latest? wanted := by
    rw [Versions.latest?, Versions.browserKey_eq hsame, ← Versions.latest?]
  have hbrowser : (defaults.complete (announcement versions env)).browserName? =
      some (Text.lower wanted) := by
    rw [FleetDefaults.browserName?_complete, h.browserName?_announcement, Text.trimmed?_lower,
      htrim, Option.map_some]
  rw [Versions.canServe, hwanted, Option.bind_some] at hcan
  cases hknown : versions.latest? wanted with
  | none => simp [hknown] at hcan
  | some known =>
    simp only [hknown, Bool.and_eq_true] at hcan
    obtain ⟨hversion, hplatform⟩ := hcan
    -- the node announces what the table says, so each comparison is one that `canServe` has made
    simp only [standardMatch, Bool.and_eq_true]
    refine ⟨⟨⟨?browsers, ?versions⟩, ?platforms⟩, ?applications⟩
    case browsers => simp [browserMatches, hwanted, hbrowser, Text.sameIgnoringCase]
    case versions =>
      rw [versionMatches, FleetDefaults.version?_complete, h.version?_announcement, hlatest, hknown]
      cases hpinned : requested.pinnedVersion? with
      | none => rfl
      | some pinned =>
        have hequal : Text.trim known = Text.trim pinned := by simpa [hpinned] using hversion
        have hknown' : Text.trimmed? known = some (Text.trim pinned) :=
          Text.trimmed?_eq_some_iff.2 ⟨hequal, trim_ne_of_pinnedVersion? hpinned⟩
        simp [hknown', hequal]
    case platforms =>
      rw [platformMatches, FleetDefaults.platform?_complete, h.platform?_announcement]
      cases hpinned : requested.pinnedPlatform? with
      | none => rfl
      | some pinned => simpa only [hpinned] using hplatform
    case applications => simp [applicationMatches, hplain]

/-- Beyond that the matcher compares the screen and the time zone, letter by letter. -/
theorem Tells.slot_accepted_iff (h : Tells env (Text.lower wanted) size zone)
    (hwanted : requested.browserName? = some wanted)
    (hcan : versions.canServe requested = true) (hplain : requested.applicationName? = none) :
    ((Matcher.fleet defaults).judge versions (defaults.complete (announcement versions env))
        requested).accepted = true ↔
      requested.namespaced.screenResolution?.getD defaults.screenResolution =
          resolutionText size ∧
        (Text.trimmed? zone).or (Text.trimmed? defaults.timeZone) =
          some (requested.namespaced.timeZone?.getD defaults.timeZone) := by
  rw [fleet_accepted_of_named defaults hwanted, FleetDefaults.namespaced_complete,
    standardMatch_namespaced, h.standardMatch_complete defaults hwanted hcan hplain,
    resolutionMatches, timeZoneMatches, FleetDefaults.screenResolution?_complete,
    FleetDefaults.timeZone?_complete, h.screenResolution?_announcement, h.timeZone?_announcement]
  simp only [Bool.true_and, Bool.and_eq_true, beq_iff_eq, Option.some_or, Option.some.injEq,
    eq_comm (a := resolutionText size)]

end Slot

namespace Provisioner

variable (p : Provisioner) (defaults : FleetDefaults) {screenVar : String}
  {requested : Capabilities}

/-- The node that is started for a request, once it has announced itself. -/
def startedNode (screenVar : String) (versions : Versions) (requested : Capabilities)
    (serial : Nat) (id : ProxyId) (registration : NodeRegistration) : Proxy Versions :=
  .node serial id registration [announcement versions (p.nodeEnv defaults screenVar requested)]
    defaults

theorem startedNode_serves_iff (screenVar : String) (versions : Versions)
    (requested : Capabilities) (serial : Nat) (id : ProxyId) (registration : NodeRegistration) :
    ((p.startedNode defaults screenVar versions requested serial id registration).serves requested
        versions).1 = .accepted ↔
      ((Matcher.fleet defaults).judge versions
        (defaults.complete (announcement versions (p.nodeEnv defaults screenVar requested)))
        requested).accepted = true := by
  simp only [startedNode, Proxy.serves, Proxy.node, List.map_cons, List.map_nil,
    Proxy.firstAccepted, Proxy.judgeBy]
  cases ((Matcher.fleet defaults).judge versions _ requested).accepted <;> simp [Verdict.ofBool]

/-- A screen has a size that a request can state. -/
theorem screen_le : (screen defaults requested).1 ≤ Text.maxWord ∧
    (screen defaults requested).2 ≤ Text.maxWord := by
  unfold screen
  cases hsize : requested.screenDimensions?.or
      ((Text.trimmed? defaults.screenResolution).bind dimensionsOf?) with
  | none => decide
  | some size =>
    rw [Option.getD_some]
    rcases Option.or_eq_some_iff.1 hsize with hown | ⟨-, hdefault⟩
    · obtain ⟨text, -, htext⟩ := Option.bind_eq_some_iff.1 hown
      exact le_of_dimensionsOf? htext
    · obtain ⟨text, -, htext⟩ := Option.bind_eq_some_iff.1 hdefault
      exact le_of_dimensionsOf? htext

/-- Whoever writes the size as it is printed gets a screen of that size. -/
theorem screen_eq {size : Nat × Nat} (hwidth : size.1 ≤ Text.maxWord)
    (hheight : size.2 ≤ Text.maxWord)
    (hwritten : requested.screenResolution?.getD defaults.screenResolution = resolutionText size) :
    screen defaults requested = size := by
  have hread : dimensionsOf? (resolutionText size) = some size :=
    dimensionsOf?_resolutionText hwidth hheight
  unfold screen screenDimensions?
  cases hscreen : requested.screenResolution? with
  | none =>
    rw [hscreen, Option.getD_none] at hwritten
    rw [hwritten, trimmed?_resolutionText, Option.bind_none, Option.none_or, Option.bind_some,
      hread, Option.getD_some]
  | some written =>
    rw [hscreen, Option.getD_some] at hwritten
    rw [hwritten, Option.bind_some, hread, Option.some_or, Option.getD_some]

/-- The time zone of a request has no blanks to trim, that of the defaults may have. -/
theorem trimmed?_timeZone_or :
    (Text.trimmed? (requested.timeZone?.getD defaults.timeZone)).or
        (Text.trimmed? defaults.timeZone) =
      Text.trimmed? (requested.timeZone?.getD defaults.timeZone) := by
  cases hzone : requested.timeZone? with
  | none => rw [Option.getD_none, Option.or_self]
  | some zone =>
    obtain ⟨text, -, htext⟩ := Option.bind_eq_some_iff.1 hzone
    rw [Option.getD_some, Text.trimmed?_of_trimmed? htext, Option.some_or]

/-- A node serves the request that it was started for exactly if the resolution that the matcher
expects is written as the node prints the size of its screen, and the time zone that the matcher
expects is the one that the node was told, without blanks around it.  Where moving the custom keys
of the request changes neither, that is: the resolution is two decimal numbers with an `x` between
them, and the time zone has no blanks around it. -/
theorem startedNode_serves_own_iff (hvar : screenVar ∉ announcedVars)
    (hcan : p.canProvision versions requested = true) (hplain : requested.applicationName? = none)
    (serial : Nat) (id : ProxyId) (registration : NodeRegistration) :
    let node := p.startedNode defaults screenVar versions requested serial id registration
    let resolution := requested.namespaced.screenResolution?.getD defaults.screenResolution
    let zone := requested.namespaced.timeZone?.getD defaults.timeZone
    ((node.serves requested versions).1 = .accepted ↔
      resolution = resolutionText (screen defaults requested) ∧
        Text.trimmed? (requested.timeZone?.getD defaults.timeZone) = some zone) ∧
    (requested.namespaced.screenResolution? = requested.screenResolution? →
      requested.namespaced.timeZone? = requested.timeZone? →
      ((node.serves requested versions).1 = .accepted ↔
        (∃ size : Nat × Nat, size.1 ≤ Text.maxWord ∧ size.2 ≤ Text.maxWord ∧
          resolution = resolutionText size) ∧ Text.trim zone = zone ∧ zone ≠ "")) := by
  dsimp only
  rw [canProvision, Bool.and_eq_true] at hcan
  obtain ⟨-, hcan⟩ := hcan
  obtain ⟨wanted, hwanted⟩ : ∃ wanted, requested.browserName? = some wanted := by
    cases hname : requested.browserName? with
    | none => simp [Versions.canServe, hname] at hcan
    | some wanted => exact ⟨wanted, rfl⟩
  have htells := p.tells_nodeEnv defaults hvar hwanted
  have hserves :=
    p.startedNode_serves_iff defaults screenVar versions requested serial id registration
  rw [htells.slot_accepted_iff defaults hwanted hcan hplain, trimmed?_timeZone_or] at hserves
  refine ⟨hserves, fun hscreen hzone => ?_⟩
  -- the text of a size is read back as that size, so it can only be the size of the node's screen
  rw [hserves, hscreen, hzone, Text.trimmed?_eq_some_iff]
  refine and_congr_left fun _ => ⟨fun hwritten => ?_, ?_⟩
  · exact ⟨_, (screen_le defaults).1, (screen_le defaults).2, hwritten⟩
  · rintro ⟨size, hwidth, hheight, hwritten⟩
    rw [screen_eq defaults hwidth hheight hwritten, hwritten]

/-- A provisioner of a small fleet. -/
def smallFleet : Provisioner where
  image := "node:latest"
  namePrefix := "node"
  maxContainers := 1
  hubUrl := "http://hub:4444"
  screenPort := 5900
  nodePort := some 5555

/-- A request in spellings of its own. -/
def chromeRequest : Capabilities :=
  .ofList [("browserName", .str " Chrome"), ("browserVersion", .str "120.0"),
    ("platformName", .str "Linux"), ("resolution", .str " 1280x720 "), ("hub:tz", .str "CET")]

theorem startedNode_serves_own_chrome :
    let versions := Versions.ofList [("chrome", "120.0 ")]
    let node := smallFleet.startedNode {} "NOVNC_PORT" versions chromeRequest 0 "10.1.0.1:5555"
      ⟨"node-1", "10.1.0.1", none⟩
    "NOVNC_PORT" ∉ announcedVars ∧ smallFleet.canProvision versions chromeRequest = true ∧
      chromeRequest.applicationName? = none ∧
      (node.serves chromeRequest versions).1 = .accepted := by
  have hvar : "NOVNC_PORT" ∉ announcedVars := by decide
  have hcan : smallFleet.canProvision (Versions.ofList [("chrome", "120.0 ")]) chromeRequest =
      true := by
    decide +kernel
  have hplain : chromeRequest.applicationName? = none := by decide +kernel
  have hresolution : chromeRequest.namespaced.screenResolution?.getD "1920x1080" =
      resolutionText (screen {} chromeRequest) := by
    decide +kernel
  have hzone : Text.trimmed? (chromeRequest.timeZone?.getD "UTC") =
      some (chromeRequest.namespaced.timeZone?.getD "UTC") := by
    decide +kernel
  refine ⟨hvar, hcan, hplain, ?_⟩
  exact (startedNode_serves_own_iff smallFleet {} hvar hcan hplain 0 "10.1.0.1:5555"
    ⟨"node-1", "10.1.0.1", none⟩).1.2 ⟨hresolution, hzone⟩

/-- A screen whose letter is a capital one is read, and is not the screen that the node prints. -/
theorem startedNode_refuses_own :
    let versions := Versions.ofList [("chrome", "")]
    let requested := Capabilities.ofList
      [("browserName", .str "chrome"), ("screenResolution", .str "1280X720")]
    smallFleet.canProvision versions requested = true ∧ requested.applicationName? = none ∧
      ((smallFleet.startedNode {} "NOVNC_PORT" versions requested 0 "10.1.0.1:5555"
        ⟨"node-1", "10.1.0.1", none⟩).serves requested versions).1 = .refused := by
  decide +kernel

end Provisioner

end BrowserGrid
