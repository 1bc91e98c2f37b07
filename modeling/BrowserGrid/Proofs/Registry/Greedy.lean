import BrowserGrid.Proofs.Registry.Order
import BrowserGrid.Proofs.Registry.Places

/-!
# A sweep is the greedy assignment

`Assignment` is the reference for a sweep.  It looks at the places as they are when the sweep begins
and only notes which slots it has given away (`Place.isOpen`); sessions are not made and proxies not
changed before the end (`greedyTurn`).  A sweep, which changes the proxies with every request that
it binds, comes to the same, whatever the order in which its queue is stored
(`System.sweep_greedy`).

The reference asks the matchers of the places in the same order as the search does, and no others,
because what they remember may matter to whether a node is started.
-/

namespace BrowserGrid.Registry

variable {ω : Type} {s : Setting ω} {callers : Callers}

/-! ### The assignment -/

namespace Place

/-- Whether a slot can still be given away, when some slots have been. -/
def isOpen (given : List SlotId) (p : Place ω) : Bool :=
  p.session.isNone && p.slot ∉ given &&
    !(p.proxy.singleUse && (p.served > 0 || given.any (·.proxy = p.slot.proxy)))

end Place

/-- A slot that a request gets. -/
structure Grant where
  request : Request
  slot : SlotId
  offered : Capabilities

/-- An assignment of slots to requests. -/
structure Assignment (ω : Type) where
  memory : ω
  /-- The slots that have been given away, in the order of the requests. -/
  grants : List Grant := []
  /-- The requests that get no slot. -/
  waiting : List PendingRequest := []
  /-- Those of them for which a node is to be started. -/
  started : List Request := []

namespace Assignment

def given (a : Assignment ω) : List SlotId := a.grants.map (·.slot)

/-- The places that can still be given away. -/
def openPlaces (live : LiveProxies ω) (a : Assignment ω) : List (Place ω) :=
  live.places.filter (·.isOpen a.given)

/-- A request gets no slot; a node is started for it unless one is being started. -/
def await (s : Setting ω) (a : Assignment ω) (p : PendingRequest) : Assignment ω :=
  if !p.provisioning && s.canProvision p.request.capabilities a.memory then
    { a with
      waiting := a.waiting ++ [{ p with provisioning := true }]
      started := a.started ++ [p.request] }
  else { a with waiting := a.waiting ++ [p] }

/-- The first place that is open and whose matcher accepts a request. -/
def choice (accepts : Acceptance) (live : LiveProxies ω) (a : Assignment ω)
    (requested : Capabilities) : Option (Place ω) :=
  (a.openPlaces live).find? (Place.suits accepts requested)

/-- The assignment after the matchers up to that place have been asked. -/
def ask (accepts : Acceptance) (live : LiveProxies ω) (a : Assignment ω)
    (requested : Capabilities) : Assignment ω :=
  let places := a.openPlaces live
  let asked := places.take (places.findIdx (Place.suits accepts requested) + 1)
  { a with memory := LiveProxies.askAll requested asked a.memory }

def grant (a : Assignment ω) (request : Request) (slot : SlotId) (offered : Capabilities) :
    Assignment ω :=
  { a with grants := a.grants ++ [⟨request, slot, offered⟩] }

/-- Give a request the first place whose matcher accepts it. -/
def serve (s : Setting ω) (accepts : Acceptance) (live : LiveProxies ω) (a : Assignment ω)
    (p : PendingRequest) : Assignment ω :=
  let b := a.ask accepts live p.request.capabilities
  match a.choice accepts live p.request.capabilities with
  | some place => b.grant p.request place.slot place.offered
  | none => b.await s p

/-- The sessions that an assignment comes to. -/
def sessions (s : Setting ω) (drawn : Nat) (a : Assignment ω) : List Session :=
  a.grants.mapIdx fun i g => .bind ⟨s.identifiers (drawn + i)⟩ g.request g.slot g.offered

end Assignment

/-- The assignment for requests in a given order. -/
def greedy (s : Setting ω) (accepts : Acceptance) (live : LiveProxies ω) (memory : ω)
    (order : List PendingRequest) : Assignment ω :=
  order.foldl (Assignment.serve s accepts live) { memory }

def LiveProxies.seat (live : LiveProxies ω) (sessions : List Session) : LiveProxies ω :=
  sessions.foldl (fun live x => live.hold x.slot x.key) live

/-- The requests of a queue whose callers are there. -/
def attended (callers : Callers) (queue : List PendingRequest) : List PendingRequest :=
  queue.filter (callers.present ·.request.id)

/-- The requests of a queue whose callers are gone. -/
def unattended (callers : Callers) (queue : List PendingRequest) : List RequestId :=
  (queue.filter (!callers.present ·.request.id)).map (·.request.id)

/-- What the assignment for a queue in the order of service makes of a registry. -/
def greedyTurn (s : Setting ω) (accepts : Acceptance) (callers : Callers) (r : Registry ω)
    (memory : ω) (order : List PendingRequest) : Turn ω :=
  let a := greedy s accepts r.live memory (attended callers order)
  let sessions := a.sessions s r.drawn
  { registry := { r with
      pending := a.waiting
      live := r.live.seat sessions
      active := r.active ++ sessions
      drawn := r.drawn + sessions.length }
    memory := a.memory
    news := sessions.map .bound ++ sessions.map .delivered ++
      (unattended callers order).map (.dropped · .callerGone)
    next := .answers (.swept a.started) }

/-! ### The places during a sweep -/

namespace Place

@[simp] theorem isOpen_nil (p : Place ω) : p.isOpen [] = p.isFree := by
  simp [isOpen, isFree]

theorem isOpen_hold (p : Place ω) (slot : SlotId) (key : SessionKey) (given : List SlotId) :
    (p.hold slot key).isOpen given = p.isOpen (slot :: given) := by
  by_cases hslot : p.slot = slot
  · simp [isOpen, hold, hslot]
  · by_cases hproxy : p.slot.proxy = slot.proxy
    · simp [isOpen, hold, hslot, hproxy]
    · simp [isOpen, hold, hslot, hproxy, Ne.symm hproxy]

def seat (p : Place ω) (sessions : List Session) : Place ω :=
  sessions.foldl (fun p x => p.hold x.slot x.key) p

theorem isOpen_seat (p : Place ω) (sessions : List Session) (given : List SlotId) :
    (p.seat sessions).isOpen given = p.isOpen (sessions.map (·.slot) ++ given) := by
  induction sessions generalizing p with
  | nil => rfl
  | cons x rest ih =>
    show ((p.hold x.slot x.key).seat rest).isOpen given = _
    rw [ih, isOpen_hold]
    rfl

theorem toFreeSlot_seat (p : Place ω) (sessions : List Session) :
    (p.seat sessions).toFreeSlot = p.toFreeSlot := by
  induction sessions generalizing p with
  | nil => rfl
  | cons x rest ih => exact ih (p.hold x.slot x.key)

/-- A place that can still be given away could be given away before. -/
theorem isOpen_of_append {p : Place ω} {given more : List SlotId}
    (h : p.isOpen (given ++ more)) : p.isOpen given := by
  simp only [isOpen, Bool.and_eq_true, decide_eq_true_eq, List.mem_append, not_or,
    List.any_append, Bool.not_eq_true', Bool.and_eq_false_imp, Bool.or_eq_false_iff] at h ⊢
  obtain ⟨⟨hsession, hgiven, -⟩, huse⟩ := h
  exact ⟨⟨hsession, hgiven⟩, fun hsingle => ⟨(huse hsingle).1, (huse hsingle).2.1⟩⟩

end Place

namespace LiveProxies

theorem places_seat (live : LiveProxies ω) (sessions : List Session) :
    (live.seat sessions).places = live.places.map (·.seat sessions) := by
  induction sessions generalizing live with
  | nil => exact (List.map_id _).symm
  | cons x rest ih =>
    show ((live.hold x.slot x.key).seat rest).places = _
    rw [ih, places_hold, List.map_map]
    rfl

/-- The search in the middle of a sweep goes through the places that can still be given away. -/
theorem freeSlots_seat (live : LiveProxies ω) (sessions : List Session) :
    freeSlots (live.seat sessions) =
      (live.places.filter (·.isOpen (sessions.map (·.slot)))).map Place.toFreeSlot := by
  have hfree : Place.isFree ∘ (Place.seat · sessions) =
      fun p : Place ω => p.isOpen (sessions.map (·.slot)) := by
    funext p
    rw [Function.comp_apply, ← Place.isOpen_nil, Place.isOpen_seat, List.append_nil]
  rw [freeSlots_eq, places_seat, List.filter_map, List.map_map, hfree]
  exact List.map_congr_left fun p _ => p.toFreeSlot_seat sessions

end LiveProxies

/-! ### The sessions of an assignment -/

namespace Assignment

@[simp] theorem length_sessions (s : Setting ω) (drawn : Nat) (a : Assignment ω) :
    (a.sessions s drawn).length = a.grants.length :=
  List.length_mapIdx

theorem map_slot_sessions (s : Setting ω) (drawn : Nat) (a : Assignment ω) :
    (a.sessions s drawn).map (·.slot) = a.given := by
  refine List.ext_getElem? fun i => ?_
  rw [sessions, given, List.getElem?_map, List.getElem?_mapIdx, List.getElem?_map, Option.map_map]
  rfl

theorem sessions_grant (s : Setting ω) (drawn : Nat) (a : Assignment ω) (request : Request)
    (slot : SlotId) (offered : Capabilities) :
    (a.grant request slot offered).sessions s drawn =
      a.sessions s drawn ++
        [.bind ⟨s.identifiers (drawn + a.grants.length)⟩ request slot offered] := by
  rw [sessions, grant, List.mapIdx_concat]
  rfl

end Assignment

theorem LiveProxies.seat_append (live : LiveProxies ω) (sessions : List Session) (x : Session) :
    live.seat (sessions ++ [x]) = (live.seat sessions).hold x.slot x.key :=
  List.foldl_append

/-! ### A sweep follows the assignment -/

namespace Assignment

/-- The sweep that has come as far as an assignment. -/
def toSweep (s : Setting ω) (r : Registry ω) (a : Assignment ω) (gone : List RequestId) :
    Sweep ω where
  live := r.live.seat (a.sessions s r.drawn)
  active := r.active ++ a.sessions s r.drawn
  drawn := r.drawn + a.grants.length
  memory := a.memory
  remaining := a.waiting
  bound := a.sessions s r.drawn
  delivered := a.sessions s r.drawn
  discarded := gone
  toProvision := a.started

theorem keep_toSweep (r : Registry ω) (a : Assignment ω) (gone : List RequestId)
    (p : PendingRequest) :
    (a.toSweep s r gone).keep s p = (a.await s p).toSweep s r gone := by
  unfold Sweep.keep await
  show (if !p.provisioning && s.canProvision p.request.capabilities a.memory then _ else _) = _
  split <;> rfl

/-- Binding the slot that the search has found gives it away. -/
theorem bind_toSweep (hstay : ∀ id, callers.receives id = callers.present id) (r : Registry ω)
    (a : Assignment ω) (gone : List RequestId) {p : PendingRequest}
    (hpresent : callers.present p.request.id = true) {slot : SlotId} {offered : Capabilities}
    (hoccupy : ∀ key, LiveProxies.occupy? (a.toSweep s r gone).live slot key =
      some ((a.toSweep s r gone).live.hold slot key)) :
    Sweep.bind s callers (a.toSweep s r gone) p slot offered =
      (a.grant p.request slot offered).toSweep s r gone := by
  have hreceives : callers.receives p.request.id = true := (hstay _).trans hpresent
  have hlength : (a.grant p.request slot offered).grants.length = a.grants.length + 1 :=
    List.length_append
  unfold Sweep.bind
  dsimp only
  rw [hoccupy]
  unfold Sweep.deliver
  dsimp only
  rw [if_pos (show callers.receives (Session.bind _ p.request slot offered).requestId = true
    from hreceives)]
  unfold toSweep
  rw [sessions_grant, LiveProxies.seat_append, ← List.append_assoc, hlength]
  rfl

/-- What the search finds in the middle of a sweep. -/
theorem firstFree_toSweep (s : Setting ω) (r : Registry ω) {accepts : Acceptance}
    (hanswers : Answers accepts r.live) (a : Assignment ω) (gone : List RequestId)
    (requested : Capabilities) :
    LiveProxies.firstFree (a.toSweep s r gone).live requested (a.toSweep s r gone).memory =
      (match a.choice accepts r.live requested with
        | some place => .found place.slot place.offered
        | none => .nothing,
      (a.ask accepts r.live requested).memory) := by
  have hfree : LiveProxies.freeSlots (a.toSweep s r gone).live =
      (a.openPlaces r.live).map Place.toFreeSlot := by
    show LiveProxies.freeSlots (r.live.seat (a.sessions s r.drawn)) = _
    rw [LiveProxies.freeSlots_seat, map_slot_sessions]
    rfl
  have hopen : ∀ place ∈ a.openPlaces r.live, ∀ memory,
      (place.proxy.judge place.offered requested memory).1 =
        .ofBool (place.suits accepts requested) :=
    fun place hplace => hanswers.judge_eq (List.mem_of_mem_filter hplace) place.offered requested
  rw [LiveProxies.firstFree, hfree]
  exact LiveProxies.searchList_eq hopen a.memory

theorem visit_toSweep (hstay : ∀ id, callers.receives id = callers.present id) {r : Registry ω}
    {accepts : Acceptance} (hanswers : Answers accepts r.live) (a : Assignment ω)
    (gone : List RequestId) {p : PendingRequest} (hpresent : callers.present p.request.id = true) :
    Sweep.visit s callers (a.toSweep s r gone) p =
      .ok ((a.serve s accepts r.live p).toSweep s r gone) := by
  have hsearch := firstFree_toSweep s r hanswers a gone p.request.capabilities
  unfold Sweep.visit serve
  dsimp only
  rw [if_neg (by simp [hpresent])]
  -- the search finds the place that the assignment chooses
  cases hchoice : a.choice accepts r.live p.request.capabilities with
  | some place =>
    rw [hchoice] at hsearch
    rw [hsearch]
    exact congrArg Except.ok (bind_toSweep hstay r (a.ask accepts r.live p.request.capabilities)
      gone hpresent (LiveProxies.occupy?_of_firstFree hsearch))
  | none =>
    rw [hchoice] at hsearch
    rw [hsearch]
    exact congrArg Except.ok
      (keep_toSweep r (a.ask accepts r.live p.request.capabilities) gone p)

theorem visitAll_toSweep (hstay : ∀ id, callers.receives id = callers.present id) {r : Registry ω}
    {accepts : Acceptance} (hanswers : Answers accepts r.live) (a : Assignment ω)
    (gone : List RequestId) (queue : List PendingRequest) :
    Sweep.visitAll s callers (a.toSweep s r gone) queue =
      .ok (((attended callers queue).foldl (serve s accepts r.live) a).toSweep s r
        (gone ++ unattended callers queue)) := by
  induction queue generalizing a gone with
  | nil => simp [Sweep.visitAll, attended, unattended]
  | cons p rest ih =>
    cases hpresent : callers.present p.request.id with
    | true =>
      have hattended : attended callers (p :: rest) = p :: attended callers rest :=
        List.filter_cons_of_pos hpresent
      have hunattended : unattended callers (p :: rest) = unattended callers rest := by
        rw [unattended, List.filter_cons_of_neg (by simp [hpresent])]
        rfl
      rw [Sweep.visitAll, visit_toSweep hstay hanswers a gone hpresent, hattended, hunattended]
      exact ih (a.serve s accepts r.live p) gone
    | false =>
      have hattended : attended callers (p :: rest) = attended callers rest :=
        List.filter_cons_of_neg (by simp [hpresent])
      have hunattended :
          unattended callers (p :: rest) = p.request.id :: unattended callers rest := by
        rw [unattended, List.filter_cons_of_pos (by simp [hpresent])]
        rfl
      have hvisit : Sweep.visit s callers (a.toSweep s r gone) p =
          .ok (a.toSweep s r (gone ++ [p.request.id])) := by
        rw [Sweep.visit, if_pos (by simp [hpresent])]
        rfl
      have hgone : gone ++ p.request.id :: unattended callers rest =
          gone ++ [p.request.id] ++ unattended callers rest := List.append_cons ..
      rw [Sweep.visitAll, hvisit, hattended, hunattended, hgone]
      exact ih a (gone ++ [p.request.id])

end Assignment

/-- A pass over the queue is the assignment for the queue as the pass sorts it. -/
theorem start_sweep_eq (hstay : ∀ id, callers.receives id = callers.present id) {r : Registry ω}
    (hrunning : r.stopped = false) {accepts : Acceptance} (hanswers : Answers accepts r.live)
    (memory : ω) :
    Operation.sweep.start s callers r memory =
      greedyTurn s accepts callers r memory (r.pending.mergeSort before) := by
  have hstart : ({ memory } : Assignment ω).toSweep s r [] = sweepStart r memory := by
    unfold Assignment.toSweep sweepStart
    congr 1
    exact List.append_nil _
  have hvisits := Assignment.visitAll_toSweep (s := s) hstay hanswers { memory } []
    (r.pending.mergeSort before)
  rw [hstart] at hvisits
  have hsweep := sweep_of_visitAll hrunning hvisits
  unfold Operation.start greedyTurn
  dsimp only
  rw [hsweep, Assignment.length_sessions]
  simp only [Assignment.toSweep, List.map_nil, List.append_nil, List.nil_append]
  rfl

/-! ### Nobody is passed over -/

namespace Assignment

/-- What serving a request does: it gets an open place that suits it, or no open place suits it. -/
theorem serve_cases (s : Setting ω) (accepts : Acceptance) (live : LiveProxies ω)
    (a : Assignment ω) (p : PendingRequest) :
    (∃ place ∈ a.openPlaces live,
      (a.serve s accepts live p).grants = a.grants ++ [⟨p.request, place.slot, place.offered⟩] ∧
      (a.serve s accepts live p).waiting = a.waiting ∧
      (a.serve s accepts live p).started = a.started) ∨
    (∀ place ∈ a.openPlaces live, place.suits accepts p.request.capabilities = false) ∧
      (a.serve s accepts live p).grants = a.grants ∧
      (∃ q, q.request = p.request ∧ (a.serve s accepts live p).waiting = a.waiting ++ [q]) ∧
      ((a.serve s accepts live p).started = a.started ∨
        (a.serve s accepts live p).started = a.started ++ [p.request]) := by
  unfold serve
  dsimp only
  split
  · rename_i place hplace
    exact .inl ⟨place, List.mem_of_find?_eq_some hplace, rfl, rfl, rfl⟩
  · rename_i hnone
    refine .inr ⟨fun place hplace => ?_, ?_⟩
    · simpa using List.find?_eq_none.1 hnone place hplace
    · unfold await
      split
      · exact ⟨rfl, ⟨{ p with provisioning := true }, rfl, rfl⟩, .inr rfl⟩
      · exact ⟨rfl, ⟨p, rfl, rfl⟩, .inl rfl⟩

/-- Whoever waits was refused by all that is left and by all that later requests got. -/
structure Fair (accepts : Acceptance) (live : LiveProxies ω) (a : Assignment ω) : Prop where
  /-- No open place suits a request that waits. -/
  left : ∀ p ∈ a.waiting, ∀ place ∈ a.openPlaces live,
    place.suits accepts p.request.capabilities = false
  /-- No place that was given to a later request suits a request that waits. -/
  given : ∀ p ∈ a.waiting, ∀ g ∈ a.grants, Precedes p.request g.request →
    accepts g.slot.proxy g.offered p.request.capabilities = false

theorem Fair.serve {accepts : Acceptance} {live : LiveProxies ω} {a : Assignment ω}
    (ha : a.Fair accepts live) {p : PendingRequest}
    (hlater : ∀ g ∈ a.grants, Precedes g.request p.request) :
    (a.serve s accepts live p).Fair accepts live := by
  rcases serve_cases s accepts live a p with
    ⟨place, hplace, hgrants, hwaiting, -⟩ | ⟨hnone, hgrants, ⟨q, hq, hwaiting⟩, -⟩
  · constructor
    · intro x hx other hother
      rw [hwaiting] at hx
      obtain ⟨hmem, hopen⟩ := List.mem_filter.1 hother
      -- what is open now was open before
      rw [Assignment.given, hgrants, List.map_append] at hopen
      exact ha.left x hx other (List.mem_filter.2 ⟨hmem, Place.isOpen_of_append hopen⟩)
    · intro x hx g hg hprecedes
      rw [hwaiting] at hx
      rw [hgrants] at hg
      rcases List.mem_append.1 hg with hg | hg
      · exact ha.given x hx g hg hprecedes
      · rw [List.mem_singleton.1 hg]
        exact ha.left x hx place hplace
  · have hopen : (a.serve s accepts live p).openPlaces live = a.openPlaces live := by
      rw [openPlaces, Assignment.given, hgrants]
      rfl
    constructor
    · intro x hx other hother
      rw [hopen] at hother
      rw [hwaiting] at hx
      rcases List.mem_append.1 hx with hx | hx
      · exact ha.left x hx other hother
      · rw [List.mem_singleton.1 hx, hq]
        exact hnone other hother
    · intro x hx g hg hprecedes
      rw [hgrants] at hg
      rw [hwaiting] at hx
      rcases List.mem_append.1 hx with hx | hx
      · exact ha.given x hx g hg hprecedes
      · -- all slots that have been given away went to earlier requests
        rw [List.mem_singleton.1 hx, hq] at hprecedes
        exact absurd (hlater g hg) hprecedes.asymm

theorem Fair.foldl {accepts : Acceptance} {live : LiveProxies ω} {order : List PendingRequest}
    (horder : order.Pairwise fun p q => Precedes p.request q.request) {a : Assignment ω}
    (ha : a.Fair accepts live)
    (hlater : ∀ g ∈ a.grants, ∀ p ∈ order, Precedes g.request p.request) :
    (order.foldl (Assignment.serve s accepts live) a).Fair accepts live := by
  induction order generalizing a with
  | nil => exact ha
  | cons p rest ih =>
    obtain ⟨hfirst, hrest⟩ := List.pairwise_cons.1 horder
    refine ih hrest (ha.serve fun g hg => hlater g hg p List.mem_cons_self) fun g hg q hq => ?_
    have hold : ∀ g ∈ a.grants, Precedes g.request q.request :=
      fun g hg => hlater g hg q (List.mem_cons_of_mem _ hq)
    rcases serve_cases s accepts live a p with ⟨place, -, hgrants, -⟩ | ⟨-, hgrants, -⟩
    · rw [hgrants] at hg
      rcases List.mem_append.1 hg with hg | hg
      · exact hold g hg
      · rw [List.mem_singleton.1 hg]
        exact hfirst q hq
    · rw [hgrants] at hg
      exact hold g hg

theorem started_sublist (s : Setting ω) (accepts : Acceptance) (live : LiveProxies ω)
    (order : List PendingRequest) (a : Assignment ω) :
    (order.foldl (serve s accepts live) a).started.Sublist
      (a.started ++ order.map (·.request)) := by
  induction order generalizing a with
  | nil => exact List.sublist_append_left ..
  | cons p rest ih =>
    refine (ih (a.serve s accepts live p)).trans ?_
    rcases serve_cases s accepts live a p with ⟨_, _, _, _, h⟩ | ⟨_, _, _, h | h⟩ <;> rw [h]
    · exact (List.sublist_cons_self ..).append_left _
    · exact (List.sublist_cons_self ..).append_left _
    · rw [List.append_assoc]
      exact .refl _

end Assignment

theorem greedy_fair (s : Setting ω) (accepts : Acceptance) (live : LiveProxies ω) (memory : ω)
    {order : List PendingRequest}
    (horder : order.Pairwise fun p q => Precedes p.request q.request) :
    (greedy s accepts live memory order).Fair accepts live := by
  have hstart : ({ memory } : Assignment ω).Fair accepts live :=
    ⟨fun _ h => absurd h List.not_mem_nil, fun _ h => absurd h List.not_mem_nil⟩
  exact hstart.foldl horder fun _ h => absurd h List.not_mem_nil

/-- A place that is free at the end of a sweep was open to everybody who waits. -/
theorem mem_openPlaces_of_isFree {live : LiveProxies ω} {a : Assignment ω} {drawn : Nat}
    {place : Place ω} (hplace : place ∈ (live.seat (a.sessions s drawn)).places)
    (hfree : place.isFree) :
    ∃ p ∈ a.openPlaces live, p.toFreeSlot = place.toFreeSlot := by
  rw [LiveProxies.places_seat] at hplace
  obtain ⟨p, hp, rfl⟩ := List.mem_map.1 hplace
  rw [← Place.isOpen_nil, Place.isOpen_seat, List.append_nil, Assignment.map_slot_sessions] at hfree
  exact ⟨p, List.mem_filter.2 ⟨hp, hfree⟩, (p.toFreeSlot_seat _).symm⟩

/-! ### The sweep of a run -/

namespace System

/-- In every run a sweep during which nobody drops a handle is the greedy assignment of the places
to the queue in the order of service, however the queue is stored.  The places stand in the order of
their addresses, a slot that the search finds can always be taken, nobody is passed over, and a node
is started at most once for a request. -/
theorem sweep_greedy (memory : ω) (actions : List (Action ω)) {σ : System ω}
    (hσ : (initial memory).run s actions = σ) (hrunning : σ.registry.stopped = false)
    (accepts : Acceptance) (hanswers : Answers accepts σ.registry.live) {callers : Callers}
    (hcallers : ({} : Departures).callers σ.mailboxes = callers) :
    ∃ order, ServiceOrder σ.registry.pending order ∧
      (∀ other, ServiceOrder σ.registry.pending other → other = order) ∧
      (σ.registry.live.places.Pairwise fun p q => AddressBefore p.slot q.slot) ∧
      (∀ stored, stored.Perm σ.registry.pending →
        Operation.sweep.start s callers { σ.registry with pending := stored } σ.memory =
          greedyTurn s accepts callers σ.registry σ.memory order) ∧
      (∀ (live : LiveProxies ω) (requested : Capabilities) (m m' : ω) (slot : SlotId)
        (offered : Capabilities), live.firstFree requested m = (.found slot offered, m') →
        ∀ key, (live.occupy? slot key).isSome) ∧
      (∀ a, greedy s accepts σ.registry.live σ.memory (attended callers order) = a →
        a.started.Nodup ∧
        ∀ p ∈ a.waiting,
          (∀ g ∈ a.grants, Precedes p.request g.request →
            accepts g.slot.proxy g.offered p.request.capabilities = false) ∧
          ∀ place ∈ (σ.registry.live.seat (a.sessions s σ.registry.drawn)).places,
            place.isFree → place.suits accepts p.request.capabilities = false) := by
  have hsequenced : Sequenced σ.registry := hσ ▸ sequenced_run memory actions
  have horder := serviceOrder_mergeSort hsequenced.nodup
  have hstay : ∀ id, callers.receives id = callers.present id := by
    intro id
    rw [← hcallers]
    exact Bool.and_true _
  refine ⟨σ.registry.pending.mergeSort before, horder, fun _ => horder.unique,
    σ.registry.live.places_sorted, ?_, ?_, ?_⟩
  · -- both lists sort into the one order of service
    intro stored hstored
    have hsequences := (hstored.map (·.request.sequence)).nodup_iff.2 hsequenced.nodup
    have hsame : stored.mergeSort before = σ.registry.pending.mergeSort before :=
      (horder.of_perm hstored).unique (serviceOrder_mergeSort hsequences)
    rw [← hsame]
    exact start_sweep_eq (r := { σ.registry with pending := stored }) hstay hrunning hanswers
      σ.memory
  · intro live requested m m' slot offered h key
    rw [LiveProxies.occupy?_of_firstFree h key]
    rfl
  · rintro a rfl
    have hsorted : (attended callers (σ.registry.pending.mergeSort before)).Pairwise
        fun p q => Precedes p.request q.request := horder.sorted.sublist List.filter_sublist
    have hfair := greedy_fair s accepts σ.registry.live σ.memory hsorted
    refine ⟨?_, fun p hp => ⟨hfair.given p hp, fun place hplace hfree => ?_⟩⟩
    · -- nodes are started for some of the queued requests, in their order
      have hdistinct : ((attended callers (σ.registry.pending.mergeSort before)).map
          (·.request)).Nodup :=
        List.pairwise_map.2 (hsorted.imp fun h heq => (heq ▸ h).asymm (heq ▸ h))
      exact hdistinct.sublist (Assignment.started_sublist ..)
    · obtain ⟨q, hq, heq⟩ := mem_openPlaces_of_isFree hplace hfree
      have hslot : q.slot = place.slot := congrArg FreeSlot.slot heq
      have hoffered : q.offered = place.offered := congrArg FreeSlot.offered heq
      have hleft := hfair.left p hp q hq
      unfold Place.suits at hleft ⊢
      rwa [hslot, hoffered] at hleft

/-- A proxy for one session, with two slots. -/
def onceProxy : Proxy Unit :=
  { judgingProxy "node:4444" (.accepted, ·) with slots := [default, default], singleUse := true }

/-- Two requests for the slots of a proxy that takes one session. -/
def contestedRun : List (Action Unit) :=
  [.begin (.add onceProxy) {}, .resume 0 true, .submit default, .submit default]

/-- The system in which they wait. -/
def contested : System Unit := (initial ()).run countingSetting contestedRun

theorem sweep_greedy_contested :
    contested.registry.stopped = false ∧
      Answers (fun _ _ _ => true) contested.registry.live ∧
      Operation.sweep.start countingSetting (({} : Departures).callers contested.mailboxes)
          contested.registry () =
        greedyTurn countingSetting (fun _ _ _ => true)
          (({} : Departures).callers contested.mailboxes) contested.registry ()
          contested.registry.pending ∧
      contested.registry.pending.length = 2 ∧
      (greedy countingSetting (fun _ _ _ => true) contested.registry.live ()
        contested.registry.pending).grants.length = 1 := by
  have hrunning : contested.registry.stopped = false := rfl
  have hlive : contested.registry.live.entries = [("node:4444", .fresh onceProxy)] := by rfl
  have hanswers : Answers (fun _ _ _ => true) contested.registry.live := by
    intro id e he offered requested memory
    rw [KeyMap.get?_eq_some_iff, hlive] at he
    cases List.mem_singleton.1 he
    rfl
  have hstored : ServiceOrder contested.registry.pending contested.registry.pending :=
    ⟨.refl _, by decide +kernel⟩
  obtain ⟨order, -, hunique, -, hturn, -⟩ :=
    sweep_greedy () contestedRun rfl hrunning (fun _ _ _ => true) hanswers rfl
  -- the requests are stored in the order of service
  obtain rfl : contested.registry.pending = order := hunique _ hstored
  exact ⟨hrunning, hanswers, hturn _ (.refl _), by decide +kernel, by decide +kernel⟩

end System

end BrowserGrid.Registry
