/-!
# The bell of the registry

Operations ring the `Bell` when they have changed something that may let a request be served; the
loop that sweeps listens to it between two sweeps, for a limited time.  A ring that nobody listens
to is stored, but only once, so a loop that was busy hears at least one of the rings that it missed.
-/

namespace BrowserGrid.Registry

/-- A bell with at most one listener. -/
structure Bell where
  /-- It has been rung while nobody listened. -/
  stored : Bool := false
  /-- Somebody listens. -/
  watched : Bool := false
  /-- It has been rung for the one who listened. -/
  rung : Bool := false
  deriving DecidableEq, Inhabited

namespace Bell

/-- Ring the bell. -/
def ring (b : Bell) : Bell :=
  if b.watched then { b with watched := false, rung := true } else { b with stored := true }

/-- Begin to listen, unless a stored ring is there to be heard. -/
def listen (b : Bell) : Bool × Bell :=
  if b.stored then (true, { b with stored := false }) else (false, { b with watched := true })

/-- Stop to listen. -/
def leave (b : Bell) : Bell := { b with watched := false }

/-- Go on once the bell has been rung or the time is over, or listen on. -/
def hear (b : Bell) (timeUp : Bool) : Bool × Bell :=
  if b.rung then (true, { b with rung := false })
  else if timeUp then (true, b.leave)
  else (false, b)

end Bell

end BrowserGrid.Registry
