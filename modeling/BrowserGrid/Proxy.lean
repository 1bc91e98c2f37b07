import BrowserGrid.Capability.Matcher
import BrowserGrid.Session
/-!
# Proxies

A `Proxy` is an endpoint with a fixed number of slots.  Its matcher, `judge`, says whether an offer
serves a request; it may change a memory `ω` that matchers share, and it may break.
`Proxy.serves` asks whether any slot, busy or not, could take a request.
-/

namespace BrowserGrid

/-- What a proxy is. -/
inductive ProxyKind where
  /-- A browser pod that this hub started. -/
  | container
  /-- An endpoint of a cloud provider. -/
  | cloud
  deriving DecidableEq, Inhabited

/-- The name of a kind. -/
def ProxyKind.name : ProxyKind → String
  | container => "container"
  | cloud => "cloud"

/-- What a matcher answers. -/
inductive Verdict where
  /-- The offer serves the request. -/
  | accepted
  /-- The offer does not serve the request. -/
  | refused
  /-- The matcher broke. -/
  | broken
  deriving DecidableEq, Inhabited

/-- The answer yes or no. -/
def Verdict.ofBool (b : Bool) : Verdict := if b then .accepted else .refused

/-- An endpoint that runs sessions. -/
structure Proxy (ω : Type) where
  /-- The number that tells this instance from others of the same identity. -/
  serial : Nat
  /-- The identity. -/
  id : ProxyId
  /-- What it is. -/
  kind : ProxyKind
  /-- What each slot offers. -/
  slots : List Capabilities
  /-- Whether it runs one session and is then removed. -/
  singleUse : Bool := false
  /-- The resource that it stands for and that ends with it. -/
  backing : Option String := none
  /-- Whether an offer serves a request. -/
  judge : (offered requested : Capabilities) → ω → Verdict × ω

namespace Proxy

variable {ω ν : Type}

/-- Ask the matcher about one offer after the other until one serves the request. -/
def firstAccepted (judge : Capabilities → Capabilities → ω → Verdict × ω)
    (requested : Capabilities) : List Capabilities → ω → Verdict × ω
  | [], memory => (.refused, memory)
  | offered :: rest, memory =>
    match judge offered requested memory with
    | (.refused, memory) => firstAccepted judge requested rest memory
    | answer => answer

/-- Whether some slot could take a request. -/
def serves (p : Proxy ω) (requested : Capabilities) (memory : ω) : Verdict × ω :=
  firstAccepted p.judge requested p.slots memory

/-- A proxy whose matcher's memory is a part of a larger one. -/
def within (part : ω → ν) (put : ω → ν → ω) (p : Proxy ν) : Proxy ω :=
  { p with
    judge := fun offered requested memory =>
      let (verdict, v) := p.judge offered requested (part memory)
      (verdict, put memory v) }

/-- The judgement of a matcher whose memory is the table of versions. -/
def judgeBy (m : Matcher) (offered requested : Capabilities) (versions : Versions) :
    Verdict × Versions :=
  let judgement := m.judge versions offered requested
  (.ofBool judgement.accepted, judgement.versions)

end Proxy

end BrowserGrid
