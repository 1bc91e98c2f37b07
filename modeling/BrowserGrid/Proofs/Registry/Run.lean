import BrowserGrid.Registry.Wait
import Mathlib.Data.List.Basic

/-!
# Runs of the registry

A `System` is a registry together with what goes on around it at one moment: the operations under
way, the mailboxes of the callers, how far their waits have come, and the history so far.
`System.step` lets one thing happen, an `Action`; an action that is not possible changes nothing.
One section under the lock is one action and any other action may stand between two sections of an
operation, so the lists of actions are all the orders in which callers can use a registry
(`System.run`).

The history holds what the sections report (`News`) with the operation that they belong to, and
what callers are answered.  `System.fates` reads off it what has become of a request: one entry for
each time that it stands in the queue and for each time that it has left the queue.

A handle may be dropped at any moment, also in the middle of a sweep: `Departures` says whose
handles are dropped before the sweep comes to their requests, and whose between that moment and the
delivery of the session.
-/

namespace BrowserGrid.Registry

/-! ### What goes on around a registry -/

/-- How far the wait of a caller has come. -/
inductive Waiting where
  /-- It has not begun. -/
  | idle
  /-- It listens for a reply until its time is over. -/
  | listening (timeout : Duration)
  /-- Its time is over, and it waits for the lock to withdraw the request. -/
  | withdrawing (timeout : Duration)
  /-- There was nothing to withdraw, and it looks for the reply again. -/
  | receiving
  /-- It has returned. -/
  | returned (result : Except RegistryError Session)
  deriving DecidableEq

/-- An operation under way. -/
structure Underway (ω : Type) where
  /-- The number of the operation. -/
  ticket : Nat
  /-- The operation. -/
  operation : Operation ω
  /-- The point at which it waits. -/
  call : Call ω

/-- What happens in a run. -/
inductive Event (ω : Type) where
  /-- A session was asked for. -/
  | submitted (result : Except RegistryError RequestId)
  /-- A request was to be withdrawn, by its own wait or by somebody else. -/
  | withdrawal (id : RequestId) (own found : Bool)
  /-- A section of an operation reported something. -/
  | reported (ticket : Nat) (op : Operation ω) (news : News)
  /-- An operation began to wait. -/
  | paused (ticket : Nat) (op : Operation ω) (call : Call ω)
  /-- An operation was over. -/
  | answered (ticket : Nat) (op : Operation ω) (answer : Answer)
  /-- The caller of an operation went away while it waited. -/
  | abandoned (ticket : Nat) (op : Operation ω) (call : Call ω)

/-- What has become of a request. -/
inductive Fate where
  /-- It stands in the queue. -/
  | queued
  /-- It was bound to a slot. -/
  | bound (session : Session)
  /-- It was withdrawn, by its own wait or by somebody else. -/
  | withdrawn (own : Bool)
  /-- It is gone without a session. -/
  | discarded (why : Discard)
  deriving DecidableEq

/-- What a piece of news makes of a request, if it takes the request out of the queue. -/
def News.fate? (id : RequestId) : News → Option Fate
  | .bound session => if session.requestId = id then some (.bound session) else none
  | .dropped other why => if other = id then some (.discarded why) else none
  | .changed | .delivered _ | .ended _ => none

/-- What an event makes of a request, if it takes the request out of the queue. -/
def Event.fate? {ω : Type} (id : RequestId) : Event ω → Option Fate
  | .reported _ _ n => n.fate? id
  | .withdrawal other own found => if other = id ∧ found then some (.withdrawn own) else none
  | _ => none

/-- The request that an event admits. -/
def Event.admitted? {ω : Type} : Event ω → Option RequestId
  | .submitted (.ok id) => some id
  | _ => none

/-- The session that a piece of news creates. -/
def News.bound? : News → Option Session
  | .bound session => some session
  | _ => none

/-- The session that an event creates. -/
def Event.bound? {ω : Type} : Event ω → Option Session
  | .reported _ _ n => n.bound?
  | _ => none

/-- A registry and what goes on around it. -/
structure System (ω : Type) where
  /-- The registry. -/
  registry : Registry ω := {}
  /-- The memory of the matchers. -/
  memory : ω
  /-- The operations under way. -/
  calls : List (Underway ω) := []
  /-- How many operations have begun. -/
  begun : Nat := 0
  /-- The mailboxes of the callers. -/
  mailboxes : List Mailbox := []
  /-- How far the waits have come. -/
  waits : RequestId → Waiting := fun _ => .idle
  /-- What has happened. -/
  history : List (Event ω) := []

/-- Whose handles are dropped while a section runs. -/
structure Departures where
  /-- Who is gone before a sweep comes to its request. -/
  early : RequestId → Bool := fun _ => false
  /-- Who is gone before a sweep hands over its session. -/
  late : RequestId → Bool := fun _ => false

namespace Departures

/-- The callers that a sweep finds. -/
def callers (d : Departures) (mailboxes : List Mailbox) : Callers where
  present id := isHeld mailboxes id && !d.early id
  receives id := isHeld mailboxes id && !d.early id && !d.late id

/-- The mailboxes after the departures. -/
def leave (d : Departures) (mailboxes : List Mailbox) : List Mailbox :=
  mailboxes.map fun m => { m with held := m.held && !d.early m.request && !d.late m.request }

end Departures

/-- Something that can happen to a registry or around it. -/
inductive Action (ω : Type) where
  /-- Ask for a session. -/
  | submit (requested : Capabilities)
  /-- Withdraw a request by its identity. -/
  | withdraw (id : RequestId)
  /-- Note the key that the client's protocol gave a session. -/
  | activate (key : SessionKey) (externalKey : String)
  /-- Starting a node for a request has failed. -/
  | provisioningFailed (id : RequestId)
  /-- Begin an operation. -/
  | begin (op : Operation ω) (departures : Departures)
  /-- Go on with an operation; whether the proxy that it waited for is prepared. -/
  | resume (ticket : Nat) (prepared : Bool)
  /-- The caller of an operation goes away. -/
  | abandon (ticket : Nat)
  /-- The caller of a request begins to wait. -/
  | wait (id : RequestId) (timeout : Duration)
  /-- A wait looks into its mailbox. -/
  | receive (id : RequestId)
  /-- The time of a wait is over. -/
  | expire (id : RequestId)
  /-- A wait whose time is over withdraws its request. -/
  | giveUp (id : RequestId)
  /-- The caller of a request drops its handle, or the wait that owns it. -/
  | depart (id : RequestId)
  /-- The memory of the matchers is changed from outside. -/
  | remember (memory : ω)

variable {ω : Type}

/-! ### Steps and runs -/

/-- Fill the mailbox that a piece of news is for. -/
def tell (mailboxes : List Mailbox) (n : News) : List Mailbox :=
  match n.reply? with
  | some (id, reply) => fillMailbox mailboxes id reply
  | none => mailboxes

/-- The operation under way that a section leaves. -/
def Next.calls (next : Next ω) (ticket : Nat) (op : Operation ω) : List (Underway ω) :=
  match next with
  | .waits call => [⟨ticket, op, call⟩]
  | .answers _ => []

/-- The event that ends a section. -/
def Next.event (next : Next ω) (ticket : Nat) (op : Operation ω) : Event ω :=
  match next with
  | .waits call => .paused ticket op call
  | .answers answer => .answered ticket op answer

/-- What a section adds to the history. -/
def Turn.events (turn : Turn ω) (ticket : Nat) (op : Operation ω) : List (Event ω) :=
  turn.news.map (.reported ticket op) ++ [turn.next.event ticket op]

/-- Whether a wait looks for a reply. -/
def Waiting.looks : Waiting → Bool
  | listening _ | receiving => true
  | _ => false

namespace System

/-- The system before anything has happened. -/
def initial (memory : ω) : System ω := { memory }

/-- The system after a section of an operation. -/
def afterTurn (σ : System ω) (ticket : Nat) (op : Operation ω) (turn : Turn ω) : System ω :=
  { σ with
    registry := turn.registry
    memory := turn.memory
    mailboxes := turn.news.foldl tell σ.mailboxes
    calls := σ.calls ++ turn.next.calls ticket op
    history := σ.history ++ turn.events ticket op }

/-- The system without an operation. -/
def without (σ : System ω) (ticket : Nat) : System ω :=
  { σ with calls := σ.calls.filter (·.ticket ≠ ticket) }

/-- The operation under way of a number. -/
def call? (σ : System ω) (ticket : Nat) : Option (Underway ω) :=
  σ.calls.find? (·.ticket = ticket)

/-- The system after a wait has come further. -/
def setWait (σ : System ω) (id : RequestId) (w : Waiting) : System ω :=
  { σ with waits := fun other => if other = id then w else σ.waits other }

/-- The system after a wait has returned; its handle is used up. -/
def endWait (σ : System ω) (id : RequestId) (result : Except RegistryError Session) : System ω :=
  { σ.setWait id (.returned result) with mailboxes := releaseMailbox σ.mailboxes id }

/-- The system after a withdrawal. -/
def afterWithdrawal (σ : System ω) (id : RequestId) (own : Bool) : System ω :=
  { σ with
    registry := (σ.registry.withdraw id).2
    mailboxes :=
      if (σ.registry.withdraw id).1 then fillMailbox σ.mailboxes id .dropped else σ.mailboxes
    history := σ.history ++ [.withdrawal id own (σ.registry.withdraw id).1] }

/-- The system after a session was asked for. -/
def afterSubmit (s : Setting ω) (σ : System ω) (requested : Capabilities) : System ω :=
  let (result, registry, memory) := σ.registry.submit s requested σ.memory
  { σ with
    registry, memory
    mailboxes := match result with
      | .ok id => σ.mailboxes ++ [{ request := id }]
      | .error _ => σ.mailboxes
    history := σ.history ++ [.submitted result] }

/-- The system after an operation has begun. -/
def afterBegin (s : Setting ω) (σ : System ω) (op : Operation ω) (d : Departures) : System ω :=
  let turn := op.start s (d.callers σ.mailboxes) σ.registry σ.memory
  let τ := { σ with begun := σ.begun + 1 }.afterTurn σ.begun op turn
  { τ with mailboxes := d.leave τ.mailboxes }

/-- The system after an operation under way has gone on. -/
def afterResume (σ : System ω) (ticket : Nat) (prepared : Bool) : System ω :=
  match σ.call? ticket with
  | some c =>
    (σ.without ticket).afterTurn ticket c.operation (c.call.resume σ.registry σ.memory prepared)
  | none => σ

/-- The system after the caller of an operation has gone away. -/
def afterAbandon (σ : System ω) (ticket : Nat) : System ω :=
  match σ.call? ticket with
  | some c =>
    { σ.without ticket with history := σ.history ++ [.abandoned ticket c.operation c.call] }
  | none => σ

/-- The system after a wait has begun; a handle is waited on once. -/
def afterWait (σ : System ω) (id : RequestId) (timeout : Duration) : System ω :=
  match isHeld σ.mailboxes id, σ.waits id with
  | true, .idle => σ.setWait id (.listening timeout)
  | _, _ => σ

/-- The system after a wait has looked into its mailbox. -/
def afterReceive (σ : System ω) (id : RequestId) : System ω :=
  if isHeld σ.mailboxes id && (σ.waits id).looks then
    match (replyTo σ.mailboxes id).outcome? with
    | some result => σ.endWait id result
    | none => σ
  else σ

/-- The system after the time of a wait is over. -/
def afterExpire (σ : System ω) (id : RequestId) : System ω :=
  match isHeld σ.mailboxes id, σ.waits id with
  | true, .listening timeout => σ.setWait id (.withdrawing timeout)
  | _, _ => σ

/-- The system after a wait has withdrawn its request, or found that it is gone. -/
def afterGiveUp (σ : System ω) (id : RequestId) : System ω :=
  match isHeld σ.mailboxes id, σ.waits id with
  | true, .withdrawing timeout =>
    let τ := σ.afterWithdrawal id true
    if (σ.registry.withdraw id).1 then τ.endWait id (.error (.timeout timeout))
    else τ.setWait id .receiving
  | _, _ => σ

/-- Let something happen. -/
def step (s : Setting ω) (σ : System ω) : Action ω → System ω
  | .submit requested => σ.afterSubmit s requested
  | .withdraw id => σ.afterWithdrawal id false
  | .activate key externalKey =>
    { σ with registry := (σ.registry.activate key externalKey).2 }
  | .provisioningFailed id => { σ with registry := σ.registry.provisioningFailed id }
  | .begin op d => σ.afterBegin s op d
  | .resume ticket prepared => σ.afterResume ticket prepared
  | .abandon ticket => σ.afterAbandon ticket
  | .wait id timeout => σ.afterWait id timeout
  | .receive id => σ.afterReceive id
  | .expire id => σ.afterExpire id
  | .giveUp id => σ.afterGiveUp id
  | .depart id => { σ with mailboxes := releaseMailbox σ.mailboxes id }
  | .remember memory => { σ with memory }

/-- Let one thing happen after the other. -/
def run (s : Setting ω) (σ : System ω) (actions : List (Action ω)) : System ω :=
  actions.foldl (step s) σ

/-! ### What a history says -/

/-- The requests that have been admitted. -/
def admitted (σ : System ω) : List RequestId := σ.history.filterMap Event.admitted?

/-- The sessions that requests have been bound to. -/
def created (σ : System ω) : List Session := σ.history.filterMap Event.bound?

/-- No two requests have been given one identity. -/
def FreshRequests (σ : System ω) : Prop := σ.admitted.Nodup

/-- No two sessions have been given one key. -/
def FreshKeys (σ : System ω) : Prop := (σ.created.map (·.key)).Nodup

/-- Everything that has become of a request. -/
def fates (σ : System ω) (id : RequestId) : List Fate :=
  (σ.registry.pending.filter (·.request.id = id)).map (fun _ => .queued) ++
    σ.history.filterMap (Event.fate? id)

end System

namespace System

variable {s : Setting ω}

@[simp] theorem run_nil (σ : System ω) : σ.run s [] = σ := rfl

@[simp] theorem run_cons (σ : System ω) (a : Action ω) (actions : List (Action ω)) :
    σ.run s (a :: actions) = (σ.step s a).run s actions := rfl

theorem run_append (σ : System ω) (before after : List (Action ω)) :
    σ.run s (before ++ after) = (σ.run s before).run s after :=
  List.foldl_append

/-- What each step preserves holds after every run. -/
theorem run_induction {P : System ω → Prop} (hstep : ∀ σ a, P σ → P (step s σ a))
    {σ : System ω} (h : P σ) (actions : List (Action ω)) : P (σ.run s actions) := by
  induction actions generalizing σ with
  | nil => exact h
  | cons a actions ih => exact ih (hstep σ a h)

end System

/-! ### A small grid -/

/-- Identifiers that count from zero. -/
def countingSetting : Setting ω := { identifiers := fun n => ⟨BitVec.ofNat 128 n⟩ }

/-- A proxy with one slot and a given judgement. -/
def judgingProxy (id : ProxyId) (judge : ω → Verdict × ω) : Proxy ω where
  serial := 0
  id
  kind := .cloud
  slots := [default]
  judge := fun _ _ => judge

end BrowserGrid.Registry
