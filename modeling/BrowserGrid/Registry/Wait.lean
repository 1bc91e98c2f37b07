import BrowserGrid.Registry.Call
/-!
# Waiting for a session

The caller of a request holds a handle with a `Mailbox`, which the registry fills at most once.
`Mailbox.outcome?` is what a wait returns once the mailbox is filled; when the time is over first,
`Registry.expire` withdraws the request, and looks into the mailbox again if it was no longer there
to be withdrawn.
-/

namespace BrowserGrid.Registry

/-- What a caller has been told. -/
inductive Reply where
  /-- Nothing. -/
  | awaited
  /-- The session of the request. -/
  | session (session : Session)
  /-- That there will be no session. -/
  | dropped
  deriving DecidableEq, Inhabited

/-- The mailbox of a request. -/
structure Mailbox where
  /-- The request. -/
  request : RequestId
  /-- What the caller has been told. -/
  reply : Reply := .awaited
  /-- Whether the caller still holds the handle. -/
  held : Bool := true
  deriving DecidableEq, Inhabited

/-- What a wait returns when the caller has been told something. -/
def Reply.outcome? : Reply → Option (Except RegistryError Session)
  | awaited => none
  | session s => some (.ok s)
  | dropped => some (.error .cancelled)

/-- Put a reply into the mailbox of a request; the first one stays. -/
def fillMailbox (mailboxes : List Mailbox) (id : RequestId) (reply : Reply) : List Mailbox :=
  mailboxes.map fun m => if m.request = id ∧ m.reply = .awaited then { m with reply } else m

/-- The caller whom a piece of news is for, and what it is told. -/
def News.reply? : News → Option (RequestId × Reply)
  | .delivered session => some (session.requestId, .session session)
  | .dropped id _ => some (id, .dropped)
  | .changed | .bound _ | .ended _ => none

/-- The caller of a request lets go of its handle. -/
def releaseMailbox (mailboxes : List Mailbox) (id : RequestId) : List Mailbox :=
  mailboxes.map fun m => if m.request = id then { m with held := false } else m

/-- What a caller has been told about a request. -/
def replyTo (mailboxes : List Mailbox) (id : RequestId) : Reply :=
  ((mailboxes.find? (·.request = id)).map (·.reply)).getD .dropped

/-- Whether the caller of a request holds its handle. -/
def isHeld (mailboxes : List Mailbox) (id : RequestId) : Bool :=
  mailboxes.any fun m => m.request = id && m.held

/-- The callers whose handles are as the mailboxes say, for the whole of a sweep. -/
def callersOf (mailboxes : List Mailbox) : Callers :=
  ⟨isHeld mailboxes, isHeld mailboxes⟩

/-- The time of a wait is over.  A request that can be withdrawn has waited in vain; of any other
the caller has been told, or is about to be. -/
def expire (r : Registry ω) (mailboxes : List Mailbox) (id : RequestId) (timeout : Duration) :
    Option (Except RegistryError Session) × Registry ω :=
  match r.withdraw id with
  | (true, r) => (some (.error (.timeout timeout)), r)
  | (false, r) => ((replyTo mailboxes id).outcome?, r)

end BrowserGrid.Registry
