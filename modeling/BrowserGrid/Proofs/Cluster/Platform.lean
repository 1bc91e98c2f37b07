import BrowserGrid.Cluster.Client
import BrowserGrid.Cluster.ResourceName
import BrowserGrid.Proofs.Cluster.Calls
import BrowserGrid.Simulation.Cluster

/-!
# What a platform promises

A `Platform` answers calls, and holds pods and services.  Beside the answers nothing of it is known,
so what the hub relies on is a hypothesis by name:

* `Platform.Performs`: a call that succeeds has had its effect (`Effect`);
* `Platform.Keeps`: moreover, a call that fails has changed nothing;
* `Platform.SelectsLabels`: the selector `key=value` picks the objects with that label;
* `Platform.Serves`: moreover, listings succeed, and a service is taken in exactly if its name is
  free, and gets ports.

Which calls fail is up to the platform, in every state anew.  `listPlatform` is a platform that
keeps all of this, and `Platform.failing` lets the calls of any platform fail by a pattern.
-/

namespace BrowserGrid.Text

/-- A character that cuts nothing is in one of the pieces. -/
theorem exists_mem_piecesList {p : Char → Bool} {c : Char} (hc : p c = false) :
    ∀ {cs : List Char}, c ∈ cs → ∃ piece ∈ piecesList p cs, c ∈ piece
  | d :: cs, hmem => by
    rw [piecesList]
    split
    · rename_i hd
      have htail : c ∈ cs := (List.mem_cons.1 hmem).resolve_left fun h => by simp [h, hd] at hc
      obtain ⟨piece, hpiece, hin⟩ := exists_mem_piecesList hc htail
      exact ⟨piece, List.mem_cons_of_mem _ hpiece, hin⟩
    · rcases List.mem_cons.1 hmem with rfl | htail
      · split
        · exact ⟨_, List.mem_cons_self, List.mem_cons_self⟩
        · exact ⟨_, List.mem_cons_self, List.mem_cons_self⟩
      · obtain ⟨piece, hpiece, hin⟩ := exists_mem_piecesList hc htail
        split
        · rename_i hnil
          rw [hnil] at hpiece
          nomatch hpiece
        · rename_i first rest hpieces
          rw [hpieces] at hpiece
          rcases List.mem_cons.1 hpiece with rfl | hpiece
          · exact ⟨_, List.mem_cons_self, List.mem_cons_of_mem _ hin⟩
          · exact ⟨piece, List.mem_cons_of_mem _ hpiece, hin⟩

theorem isPrefixOf?_singleton (c d : Char) (cs : List Char) :
    [c].isPrefixOf? (d :: cs) = if c == d then some cs else none := rfl

/-- A text is cut at the first place of a character. -/
theorem cutList_append {c : Char} {front : List Char} (hfront : c ∉ front) (back : List Char) :
    cutList [c] (front ++ c :: back) = some (front, back) := by
  induction front with
  | nil => simp [cutList, isPrefixOf?_singleton]
  | cons d front ih =>
    have hd : (c == d) = false := beq_eq_false_iff_ne.2 fun h => hfront (h ▸ List.mem_cons_self)
    have hcut := ih fun h => hfront (List.mem_cons_of_mem _ h)
    simp [cutList, isPrefixOf?_singleton, hd, hcut]

end BrowserGrid.Text

namespace BrowserGrid.Cluster

open Program
open Simulation (SimCluster)

/-! ### Label strings -/

namespace Label

/-- The characters inside a label string. -/
def isInner (c : Char) : Bool := c.isAlphanum || c = '-' || c = '_' || c = '.'

/-- At most 63 characters, of which the first and the last are letters or digits. -/
def isName (cs : List Char) : Bool :=
  cs.length ≤ 63 && cs.all isInner &&
    cs.head?.any Char.isAlphanum && cs.getLast?.any Char.isAlphanum

/-- Small letters, digits and hyphens, of which the first and the last are no hyphens. -/
def isDomainLabel (cs : List Char) : Bool :=
  cs.all (fun c => ResourceName.isAlphanumeric c || c = '-') &&
    cs.head?.any ResourceName.isAlphanumeric && cs.getLast?.any ResourceName.isAlphanumeric

/-- A domain: labels with points between them, of at most 253 characters. -/
def isDomain (cs : List Char) : Bool :=
  cs.length ≤ ResourceName.maxBytes && (Text.piecesList (· = '.') cs).all isDomainLabel

/-- The key of a label: a name, behind a domain and a slash if it has one. -/
def isKey (key : String) : Bool :=
  match Text.piecesList (· = '/') key.toList with
  | [name] => isName name
  | [domain, name] => isDomain domain && isName name
  | _ => false

/-- The value of a label, which may be empty. -/
def isValue (value : String) : Bool := value.isEmpty || isName value.toList

theorem not_mem_of_isName {cs : List Char} (h : isName cs = true) : '=' ∉ cs := by
  intro hmem
  simp only [isName, Bool.and_eq_true, List.all_eq_true] at h
  exact absurd (h.1.1.2 _ hmem) (by decide)

theorem not_mem_of_isDomain {cs : List Char} (h : isDomain cs = true) : '=' ∉ cs := by
  intro hmem
  obtain ⟨piece, hpiece, hin⟩ := Text.exists_mem_piecesList (p := (· = '.')) (by decide) hmem
  simp only [isDomain, Bool.and_eq_true, List.all_eq_true] at h
  have hlabel := h.2 piece hpiece
  simp only [isDomainLabel, Bool.and_eq_true, List.all_eq_true] at hlabel
  exact absurd (hlabel.1.1 _ hin) (by decide)

/-- What separates key and value in a selector is not in the key. -/
theorem not_mem_of_isKey {key : String} (h : isKey key = true) : '=' ∉ key.toList := by
  intro hmem
  obtain ⟨piece, hpiece, hin⟩ := Text.exists_mem_piecesList (p := (· = '/')) (by decide) hmem
  unfold isKey at h
  split at h
  · rename_i name hpieces
    rw [hpieces, List.mem_singleton] at hpiece
    exact not_mem_of_isName (hpiece ▸ h) hin
  · rename_i domain name hpieces
    rw [Bool.and_eq_true] at h
    rw [hpieces] at hpiece
    rcases List.mem_cons.1 hpiece with rfl | hpiece
    · exact not_mem_of_isDomain h.1 hin
    · rw [List.mem_singleton.1 hpiece] at hin
      exact not_mem_of_isName h.2 hin
  · nomatch h

end Label

/-! ### What a platform holds -/

/-- The objects of a platform; those of one kind that have names have different ones. -/
@[ext] structure Inventory where
  pods : List Pod := []
  services : List Service := []
  podsDistinct : (pods.filterMap Pod.name?).Nodup := by decide
  servicesDistinct : (services.filterMap Service.name?).Nodup := by decide
  deriving DecidableEq

/-- A list with one more element somewhere. -/
def Inserted {α : Type} (x : α) (before after : List α) : Prop :=
  ∃ front back, before = front ++ back ∧ after = front ++ x :: back

namespace Inserted

theorem mem {α : Type} {x : α} {before after : List α} (h : Inserted x before after) :
    x ∈ after := by
  obtain ⟨front, back, -, rfl⟩ := h
  simp

/-- A filter that drops the element sees no difference. -/
theorem filter_of_neg {α : Type} {x : α} {before after : List α} {p : α → Bool}
    (h : Inserted x before after) (hx : p x = false) : after.filter p = before.filter p := by
  obtain ⟨front, back, rfl, rfl⟩ := h
  simp [List.filter_append, hx]

theorem length_filter {α : Type} {x : α} {before after : List α} (h : Inserted x before after)
    (p : α → Bool) :
    (after.filter p).length = (before.filter p).length + if p x then 1 else 0 := by
  obtain ⟨front, back, rfl, rfl⟩ := h
  cases hx : p x <;> simp [List.filter_append, hx]
  omega

/-- If names are distinct, the element is the only one with its name. -/
theorem filter_eq {α : Type} {name? : α → Option String} {x : α} {before after : List α}
    {name : String} (h : Inserted x before after) (hdistinct : (after.filterMap name?).Nodup)
    (hname : name? x = some name) : before.filter (name? · ≠ some name) = before := by
  obtain ⟨front, back, rfl, rfl⟩ := h
  rw [List.filterMap_append, List.filterMap_cons_some hname] at hdistinct
  have hfresh := (List.nodup_cons.1 (List.perm_middle.nodup_iff.1 hdistinct)).1
  rw [List.filter_eq_self]
  intro y hy
  have hother : name? y ≠ some name := fun hyname => hfresh (by
    rw [← List.filterMap_append]
    exact List.mem_filterMap.2 ⟨y, hy, hyname⟩)
  simpa using hother

end Inserted

/-- Objects with one name are one object. -/
theorem eq_of_name {α : Type} {name? : α → Option String} {objects : List α} {x y : α}
    {name : String} (hdistinct : (objects.filterMap name?).Nodup) (hx : x ∈ objects)
    (hy : y ∈ objects) (hxname : name? x = some name) (hyname : name? y = some name) : x = y := by
  obtain ⟨front, back, rfl⟩ := List.append_of_mem hx
  have hothers := Inserted.filter_eq ⟨front, back, rfl, rfl⟩ hdistinct hxname
  rw [List.filter_eq_self] at hothers
  rcases List.mem_cons.1 (List.perm_middle.mem_iff.1 hy) with rfl | hy
  · rfl
  · exact absurd hyname (by simpa using hothers y hy)

/-- A pod as a platform runs it: it has a name, and its labels are those with which it was
submitted. -/
structure Hosted (submitted created : Pod) : Prop where
  named : ∃ name, created.name? = some name
  labels : created.metadata.labels = submitted.metadata.labels

/-- A port of a service without its node port. -/
def withoutNodePort (port : ServicePort) : ServicePort := { port with nodePort := none }

/-- A service as a platform runs it: its ports may have got node ports. -/
structure Assigned (submitted created : Service) : Prop where
  metadata : created.metadata = submitted.metadata
  selector : created.spec.selector = submitted.spec.selector
  ports : created.spec.ports.map withoutNodePort = submitted.spec.ports.map withoutNodePort

theorem Assigned.name? {submitted created : Service} (h : Assigned submitted created) :
    created.name? = submitted.name? :=
  congrArg Metadata.name h.metadata

/-- What a call that succeeds answers, and what it makes of the objects. -/
def Effect (selects : String → KeyMap String → Bool) (before : Inventory) :
    (op : Operation) → op.Reply → Inventory → Prop
  | .createPod pod, created, after =>
    Hosted pod created ∧ Inserted created before.pods after.pods ∧
      after.services = before.services
  | .getPod name, found, after => found = before.pods.find? (·.name? == some name) ∧ after = before
  | .deletePod name, _, after =>
    after.pods = before.pods.filter (·.name? ≠ some name) ∧ after.services = before.services
  | .listPods selector, listed, after =>
    listed = before.pods.filter (fun pod => selects selector pod.metadata.labels) ∧ after = before
  | .createService service, created, after =>
    Assigned service created ∧ Inserted created before.services after.services ∧
      after.pods = before.pods
  | .deleteService name, _, after =>
    after.services = before.services.filter (·.name? ≠ some name) ∧ after.pods = before.pods
  | .listServices selector, listed, after =>
    listed = before.services.filter (fun service => selects selector service.metadata.labels) ∧
      after = before

/-- A platform: how it answers calls, what it holds, and which labels satisfy a selector. -/
structure Platform (σ : Type) where
  answer : σ → (op : Operation) → Except ClusterError op.Reply × σ
  holds : σ → Inventory
  selects : String → KeyMap String → Bool

namespace Platform

variable {σ : Type}

/-- A call that succeeds has had its effect. -/
def Performs (P : Platform σ) : Prop :=
  ∀ s op reply, (P.answer s op).1 = .ok reply →
    Effect P.selects (P.holds s) op reply (P.holds (P.answer s op).2)

theorem Performs.effect {P : Platform σ} (hP : P.Performs) {s s' : σ} {op : Operation}
    {reply : op.Reply} (h : P.answer s op = (.ok reply, s')) :
    Effect P.selects (P.holds s) op reply (P.holds s') := by
  have heffect := hP s op reply (by rw [h])
  rwa [h] at heffect

/-- A call that succeeds has had its effect, and one that fails has changed nothing. -/
structure Keeps (P : Platform σ) : Prop where
  performs : P.Performs
  spares : ∀ s op e, (P.answer s op).1 = .error e → P.holds (P.answer s op).2 = P.holds s

/-- The selector of a label picks the objects with this label. -/
def SelectsLabels (P : Platform σ) : Prop :=
  ∀ key value labels, Label.isKey key = true → Label.isValue value = true →
    (P.selects (key ++ "=" ++ value) labels = true ↔ labels.get? key = some value)

/-- A platform that can always be asked for the objects with a label, and that takes in every
service whose name is free and gives it ports. -/
structure Serves (P : Platform σ) : Prop where
  performs : P.Performs
  selectsLabels : P.SelectsLabels
  listsPods : ∀ s key value, Label.isKey key = true → Label.isValue value = true →
    ∃ pods, (P.answer s (.listPods (key ++ "=" ++ value))).1 = .ok pods
  listsServices : ∀ s key value, Label.isKey key = true → Label.isValue value = true →
    ∃ services, (P.answer s (.listServices (key ++ "=" ++ value))).1 = .ok services
  creates : ∀ s service name, service.name? = some name →
    ((∃ created, (P.answer s (.createService service)).1 = .ok created) ↔
      ∀ held ∈ (P.holds s).services, held.name? ≠ some name)
  assigns : ∀ s service created, (P.answer s (.createService service)).1 = .ok created →
    ∀ port ∈ created.spec.ports, port.nodePort.isSome = true

end Platform

/-- What the calls of a program do not change when they succeed is the same at its end. -/
theorem Platform.Keeps.frame {α β σ : Type} {P : Platform σ} (hP : P.Keeps) (view : Inventory → β)
    {p : Program α} {s : σ}
    (h : ∀ op ∈ calls P.answer p s, ∀ before reply after,
      Effect P.selects before op reply after → view after = view before) :
    view (P.holds (run P.answer p s).2) = view (P.holds s) := by
  induction p generalizing s with
  | done a => rfl
  | call op next ih =>
    have hrest := ih (P.answer s op).1 fun made hmade => h made (List.mem_cons_of_mem _ hmade)
    refine Eq.trans hrest ?_
    cases hreply : (P.answer s op).1 with
    | ok reply => exact h op List.mem_cons_self _ _ _ (hP.performs s op reply hreply)
    | error e => rw [hP.spares s op e hreply]

/-! ### The objects of the hub -/

/-- The pods that the hub owns. -/
def Client.ownPods {σ : Type} (P : Platform σ) (c : Client) (i : Inventory) : List Pod :=
  i.pods.filter fun pod => P.selects c.ownerSelector pod.metadata.labels

/-- The services that the hub owns. -/
def Client.ownServices {σ : Type} (P : Platform σ) (c : Client) (i : Inventory) : List Service :=
  i.services.filter fun service => P.selects c.ownerSelector service.metadata.labels

/-- The hub's selector picks what has the hub's label alone. -/
theorem Platform.SelectsLabels.ownerLabels {σ : Type} {P : Platform σ} (hP : P.SelectsLabels)
    {c : Client} (hkey : Label.isKey c.ownershipLabel = true)
    (hvalue : Label.isValue c.ownershipValue = true) :
    P.selects c.ownerSelector c.ownerLabels = true :=
  (hP _ _ _ hkey hvalue).2 ((KeyMap.get?_insert ..).trans (if_pos rfl))

/-- A listing of the hub's pods. -/
theorem Platform.Performs.listPods {σ : Type} {P : Platform σ} (hP : P.Performs) {c : Client}
    {s s' : σ} {pods : List Pod} (h : P.answer s (.listPods c.ownerSelector) = (.ok pods, s')) :
    pods = c.ownPods P (P.holds s) ∧ P.holds s' = P.holds s :=
  hP.effect h

/-- A listing of the hub's services. -/
theorem Platform.Performs.listServices {σ : Type} {P : Platform σ} (hP : P.Performs) {c : Client}
    {s s' : σ} {services : List Service}
    (h : P.answer s (.listServices c.ownerSelector) = (.ok services, s')) :
    services = c.ownServices P (P.holds s) ∧ P.holds s' = P.holds s :=
  hP.effect h

/-! ### Platforms whose calls fail -/

namespace Platform

variable {σ : Type}

/-- A platform that takes the next entry of a pattern at every call, and fails if it is an error. -/
def failing (P : Platform σ) : Platform (σ × List (Option ClusterError)) where
  answer s op :=
    match s.2 with
    | some e :: pattern => (.error e, (s.1, pattern))
    | none :: pattern => ((P.answer s.1 op).1, ((P.answer s.1 op).2, pattern))
    | [] => ((P.answer s.1 op).1, ((P.answer s.1 op).2, []))
  holds s := P.holds s.1
  selects := P.selects

theorem Keeps.failing {P : Platform σ} (h : P.Keeps) : P.failing.Keeps where
  performs := by
    rintro ⟨s, _ | ⟨_ | e, pattern⟩⟩ op reply hreply
    · exact h.performs s op reply hreply
    · exact h.performs s op reply hreply
    · nomatch hreply
  spares := by
    rintro ⟨s, _ | ⟨_ | e, pattern⟩⟩ op e' herror
    · exact h.spares s op e' herror
    · exact h.spares s op e' herror
    · rfl

end Platform

/-! ### A platform in memory -/

namespace Inventory

variable {α : Type} {name? : α → Option String} {objects : List α}

theorem nodup_filter (p : α → Bool) (h : (objects.filterMap name?).Nodup) :
    ((objects.filter p).filterMap name?).Nodup :=
  h.sublist (List.filter_sublist.filterMap name?)

theorem nodup_concat {x : α} (h : (objects.filterMap name?).Nodup)
    (hx : ∀ y ∈ objects, name? y ≠ name? x) : ((objects ++ [x]).filterMap name?).Nodup := by
  rw [List.filterMap_append]
  cases hname : name? x with
  | none => simpa [hname] using h
  | some name =>
    have hfree : name ∉ objects.filterMap name? := by
      intro hmem
      obtain ⟨y, hy, hyname⟩ := List.mem_filterMap.1 hmem
      exact hx y hy (hyname.trans hname.symm)
    simp only [List.filterMap_cons, hname, List.filterMap_nil]
    exact List.nodup_append.2 ⟨h, by simp, fun a ha b hb => by
      rw [List.mem_singleton.1 hb]
      exact fun hab => hfree (hab ▸ ha)⟩

/-- What is held without the pod of a name. -/
def withoutPod (i : Inventory) (name : String) : Inventory :=
  { i with
    pods := i.pods.filter (·.name? ≠ some name)
    podsDistinct := nodup_filter _ i.podsDistinct }

/-- What is held without the service of a name. -/
def withoutService (i : Inventory) (name : String) : Inventory :=
  { i with
    services := i.services.filter (·.name? ≠ some name)
    servicesDistinct := nodup_filter _ i.servicesDistinct }

/-- Take in a pod, which gets a name by the number of pods, unless that name is taken. -/
def createPod (i : Inventory) (pod : Pod) : Except ClusterError Pod × Inventory :=
  let created := (({ created := i.pods.length } : SimCluster).createPod pod).1
  if h : ∀ held ∈ i.pods, held.name? ≠ created.name? then
    (.ok created,
      { i with
        pods := i.pods ++ [created]
        podsDistinct := nodup_concat i.podsDistinct h })
  else (.error (.commandFailed "create pod" "already exists"), i)

/-- Take in a service, whose ports get numbers by the number of services, unless its name is
taken. -/
def createService (i : Inventory) (service : Service) : Except ClusterError Service × Inventory :=
  let ports := (SimCluster.assignPorts (30000 + i.services.length) service.spec.ports).1
  let created := { service with spec := { service.spec with ports } }
  if h : ∀ held ∈ i.services, held.name? ≠ created.name? then
    (.ok created,
      { i with
        services := i.services ++ [created]
        servicesDistinct := nodup_concat i.servicesDistinct h })
  else (.error (.commandFailed "create service" "already exists"), i)

/-- The answer to a call. -/
def answer (i : Inventory) : (op : Operation) → Except ClusterError op.Reply × Inventory
  | .createPod pod => i.createPod pod
  | .getPod name => (.ok (i.pods.find? (·.name? == some name)), i)
  | .deletePod name => (.ok (), i.withoutPod name)
  | .listPods selector =>
    (.ok (i.pods.filter fun pod => SimCluster.selects selector pod.metadata.labels), i)
  | .createService service => i.createService service
  | .deleteService name => (.ok (), i.withoutService name)
  | .listServices selector =>
    (.ok (i.services.filter fun service =>
      SimCluster.selects selector service.metadata.labels), i)

theorem assignPorts_withoutNodePort (ports : List ServicePort) (next : Nat) :
    (SimCluster.assignPorts next ports).1.map withoutNodePort = ports.map withoutNodePort := by
  induction ports generalizing next with
  | nil => rfl
  | cons port rest ih => exact congrArg (withoutNodePort port :: ·) (ih (next + 1))

theorem assignPorts_isSome (ports : List ServicePort) (next : Nat) :
    ∀ port ∈ (SimCluster.assignPorts next ports).1, port.nodePort.isSome = true := by
  induction ports generalizing next with
  | nil => exact fun _ h => nomatch h
  | cons port rest ih =>
    intro p hp
    rcases List.mem_cons.1 hp with rfl | hp
    · rfl
    · exact ih (next + 1) p hp

/-- A call succeeds and has its effect, or it fails and changes nothing. -/
theorem answer_cases (i : Inventory) (op : Operation) :
    (∃ reply after, i.answer op = (.ok reply, after) ∧
      Effect SimCluster.selects i op reply after) ∨ ∃ e, i.answer op = (.error e, i) := by
  cases op with
  | createPod pod =>
    simp only [answer, createPod]
    split
    · exact .inl ⟨_, _, rfl, ⟨⟨_, rfl⟩, rfl⟩, ⟨_, [], (List.append_nil _).symm, rfl⟩, rfl⟩
    · exact .inr ⟨_, rfl⟩
  | createService service =>
    simp only [answer, createService]
    split
    · exact .inl ⟨_, _, rfl, ⟨rfl, rfl, assignPorts_withoutNodePort _ _⟩,
        ⟨_, [], (List.append_nil _).symm, rfl⟩, rfl⟩
    · exact .inr ⟨_, rfl⟩
  | getPod name | deletePod name | listPods selector | deleteService name
  | listServices selector => exact .inl ⟨_, _, rfl, rfl, rfl⟩

end Inventory

/-- A platform that keeps its objects in lists. -/
def listPlatform : Platform Inventory := ⟨Inventory.answer, id, SimCluster.selects⟩

namespace Platform

theorem listPlatform_selectsLabels : listPlatform.SelectsLabels := by
  intro key value labels hkey _
  have hcut : Text.cut? "=" (key ++ "=" ++ value) = some (key, value) := by
    have hlist : (key ++ "=" ++ value).toList = key.toList ++ '=' :: value.toList := by simp
    rw [Text.cut?, hlist, show "=".toList = ['='] from rfl,
      Text.cutList_append (Label.not_mem_of_isKey hkey)]
    simp
  show SimCluster.selects _ labels = true ↔ _
  rw [SimCluster.selects, hcut]
  exact beq_iff_eq

theorem listPlatform_keeps : listPlatform.Keeps where
  performs i op reply hreply := by
    obtain ⟨_, _, hanswer, heffect⟩ | ⟨_, hanswer⟩ := i.answer_cases op
    · simp only [listPlatform, hanswer, id] at hreply ⊢
      cases hreply
      exact heffect
    · simp only [listPlatform, hanswer] at hreply
      nomatch hreply
  spares i op e herror := by
    obtain ⟨_, _, hanswer, -⟩ | ⟨_, hanswer⟩ := i.answer_cases op
    · simp only [listPlatform, hanswer] at herror
      nomatch herror
    · simp only [listPlatform, hanswer]

theorem listPlatform_serves : listPlatform.Serves where
  performs := listPlatform_keeps.performs
  selectsLabels := listPlatform_selectsLabels
  listsPods _ _ _ _ _ := ⟨_, rfl⟩
  listsServices _ _ _ _ _ := ⟨_, rfl⟩
  creates i service name hname := by
    show (∃ created, (i.createService service).1 = .ok created) ↔ _
    rw [← hname, Inventory.createService]
    split
    · rename_i hfree
      exact ⟨fun _ => hfree, fun _ => ⟨_, rfl⟩⟩
    · rename_i htaken
      exact ⟨fun ⟨_, hcreated⟩ => (nomatch hcreated), fun hfree => absurd hfree htaken⟩
  assigns i service created hcreated := by
    replace hcreated : (i.createService service).1 = .ok created := hcreated
    rw [Inventory.createService] at hcreated
    split at hcreated
    · cases hcreated
      exact Inventory.assignPorts_isSome _ _
    · nomatch hcreated

end Platform

end BrowserGrid.Cluster
