import BrowserGrid.Cluster.NodePod
import BrowserGrid.Cluster.Service
import BrowserGrid.Proofs.Json.Canonical
import BrowserGrid.Proofs.Json.Fields

/-!
# Descriptions of pods and services that go back and forth

What is written of a pod or service is read back as the same one, provided that the sources of its
volumes are values (`Pod.Settled`) and that its ports are port numbers (`Service.InRange`); and
whatever was read is of this kind.  The volumes of a pod that was read stand for the same values as
those that were written down (`Pod.toJson_volumes`).
-/

namespace BrowserGrid

open Json.Record

/-! ### Parts without a volume or a port -/

theorem Metadata.ofJson?_toJson (m : Metadata) : Metadata.ofJson? m.toJson = some m := by
  apply read?_write
  · simp [Distinct]
  · intro hfields
    refine Reads.bind (hfields.optionalText m.name (by simp)) ?_
    refine Reads.bind (hfields.optionalText m.generateName (by simp)) ?_
    refine Reads.bind (hfields.texts m.labels (by simp)) ?_
    exact .pure m

theorem EnvVar.ofJson?_toJson (e : EnvVar) : EnvVar.ofJson? e.toJson = some e := by
  apply read?_write
  · simp [Distinct]
  · intro hfields
    refine Reads.bind (hfields.required (.str e.name) (by simp) rfl) ?_
    refine Reads.bind (hfields.optionalText e.value (by simp)) ?_
    exact .pure e

theorem VolumeMount.ofJson?_toJson (m : VolumeMount) : VolumeMount.ofJson? m.toJson = some m := by
  apply read?_write
  · simp [Distinct]
  · intro hfields
    refine Reads.bind (hfields.required (.str m.name) (by simp) rfl) ?_
    refine Reads.bind (hfields.required (.str m.mountPath) (by simp) rfl) ?_
    refine Reads.bind (hfields.optional m.readOnly .bool (by simp) fun _ _ => rfl) ?_
    exact .pure m

theorem ResourceSpec.ofJson?_toJson (r : ResourceSpec) : ResourceSpec.ofJson? r.toJson = some r := by
  apply read?_write
  · simp [Distinct]
  · intro hfields
    refine Reads.bind (hfields.texts r.limits (by simp)) ?_
    refine Reads.bind (hfields.texts r.requests (by simp)) ?_
    exact .pure r

/-- Amounts that are left out were none. -/
theorem ResourceSpec.eq_of_isEmpty {r : ResourceSpec} (h : r.isEmpty = true) : r = {} := by
  obtain ⟨hlimits, hrequests⟩ := Bool.and_eq_true_iff.1 h
  obtain ⟨limits, requests⟩ := r
  rw [show limits = KeyMap.empty from KeyMap.ext_entries (List.isEmpty_iff.1 hlimits),
    show requests = KeyMap.empty from KeyMap.ext_entries (List.isEmpty_iff.1 hrequests)]

theorem ContainerSpec.ofJson?_toJson (c : ContainerSpec) :
    ContainerSpec.ofJson? c.toJson = some c := by
  apply read?_write
  · simp [Distinct]
  · intro hfields
    refine Reads.bind (hfields.required (.str c.name) (by simp) rfl) ?_
    refine Reads.bind (hfields.written (.str c.image) (by simp) rfl) ?_
    refine Reads.bind (hfields.optionalText c.imagePullPolicy (by simp)) ?_
    refine Reads.bind (hfields.list c.env EnvVar.toJson (by simp)
      fun e _ => e.ofJson?_toJson) ?_
    refine Reads.bind (hfields.list c.volumeMounts VolumeMount.toJson (by simp)
      fun m _ => m.ofJson?_toJson) ?_
    refine Reads.bind (a := c.resources) (hfields.defaulted
      (if c.resources.isEmpty then none else some c.resources.toJson) (by simp) ?_ ?_) ?_
    · intro hnone
      split at hnone
      · rename_i hempty
        exact ResourceSpec.eq_of_isEmpty hempty
      · cases hnone
    · intro j hj
      split at hj
      · cases hj
      · cases hj
        exact c.resources.ofJson?_toJson
    exact .pure c

theorem PodStatus.ofJson?_toJson (s : PodStatus) : PodStatus.ofJson? s.toJson = some s := by
  apply read?_write
  · simp [Distinct]
  · intro hfields
    refine Reads.bind (hfields.optionalText s.phase (by simp)) ?_
    refine Reads.bind (hfields.optionalText s.podIp (by simp)) ?_
    exact .pure s

/-! ### Volumes -/

namespace Volume

/-- The source of a volume consists of values. -/
def Settled (x : Volume) : Prop := ∀ e ∈ x.source.entries, Json.canonical e.2 = e.2

theorem filter_members {x : Volume} :
    (("name", Json.str x.name) :: x.source.entries).filter (·.1 = "name") =
      [("name", .str x.name)] := by
  have hsource : x.source.entries.filter (·.1 = "name") = [] := by
    refine List.filter_eq_nil_iff.2 fun e he hname => ?_
    have hget : x.source.get? "name" = some e.2 :=
      KeyMap.get?_eq_some_iff.2 (of_decide_eq_true hname ▸ he)
    rw [x.unnamed] at hget
    cases hget
  rw [List.filter_cons_of_pos (by simp), hsource]

theorem canonicalMembers_members {x : Volume} (h : x.Settled) :
    Json.canonicalMembers (("name", .str x.name) :: x.source.entries) =
      x.source.insertNew "name" (.str x.name) := by
  rw [Json.canonicalMembers, Json.canonicalMembers_eq x.source h]
  rfl

/-- The name that is written beside the source is taken off again. -/
theorem erase_insertNew {x : Volume} :
    (x.source.insertNew "name" (.str x.name)).erase "name" = x.source := by
  refine KeyMap.ext_get? fun key => ?_
  rw [KeyMap.get?_erase, KeyMap.get?_insertNew]
  split
  · rename_i hkey
    rw [hkey, x.unnamed]
  · rfl

theorem ext_parts {x y : Volume} (hname : x.name = y.name) (hsource : x.source = y.source) :
    x = y := by
  cases x
  cases y
  cases hname
  cases hsource
  rfl

theorem ofJson?_toJson {x : Volume} (h : x.Settled) : Volume.ofJson? x.toJson = some x := by
  have hname : required "name" Json.text? (.named (("name", .str x.name) :: x.source.entries)) =
      some (x.name, .named (("name", .str x.name) :: x.source.entries)) :=
    required_of_filter filter_members rfl
  unfold Volume.ofJson? Volume.toJson
  dsimp only
  rw [StateT.run, hname]
  refine congrArg some (ext_parts rfl ?_)
  show KeyMap.erase _ _ = _
  rw [canonicalMembers_members h, erase_insertNew]

/-- A volume that was read has values in its source, and stands for the value it was read from. -/
theorem of_ofJson? {j : Json} {x : Volume} (h : Volume.ofJson? j = some x) :
    x.Settled ∧ x.toJson.canonical = j.canonical := by
  unfold Volume.ofJson? at h
  split at h
  · rename_i members
    obtain ⟨⟨name, source⟩, hname, hx⟩ := Option.bind_eq_some_iff.1 h
    obtain ⟨i, hfilter, htext⟩ := filter_of_required hname
    have hi : i = .str name := by
      cases i with
      | str text => exact congrArg Json.str (Option.some.inj htext)
      | null | bool | num | arr | obj => cases htext
    obtain rfl := Option.some.inj hx
    have hunnamed : ((Json.canonicalMembers members).erase "name").get? "name" = none := by
      rw [KeyMap.get?_erase, if_pos rfl]
    have hsettled : Settled ⟨name, (Json.canonicalMembers members).erase "name", hunnamed⟩ :=
      fun e he => Json.canonical_of_mem members e ((KeyMap.eraseList_sublist _ _).subset he)
    refine ⟨hsettled, ?_⟩
    have hmembers : ((Json.canonicalMembers members).erase "name").insertNew "name" (.str name) =
        Json.canonicalMembers members := by
      refine KeyMap.ext_get? fun key => ?_
      rw [KeyMap.get?_insertNew, KeyMap.get?_erase]
      split
      · rename_i hkey
        rw [hkey, Json.get?_canonicalMembers, hfilter, hi]
        rfl
      · rfl
    unfold Volume.toJson Json.canonical
    refine congrArg (fun m : KeyMap Json => Json.obj m.entries) ?_
    exact (canonicalMembers_members hsettled).trans hmembers
  · cases h

end Volume

/-! ### Pods -/

namespace PodSpec

theorem ofJson?_toJson {s : PodSpec} (h : ∀ x ∈ s.volumes, x.Settled) :
    PodSpec.ofJson? s.toJson = some s := by
  apply read?_write
  · simp [Distinct]
  · intro hfields
    refine Reads.bind (a := s.containers) (hfields.written _ (by simp)
      (Json.list?_arr fun c _ => c.ofJson?_toJson)) ?_
    refine Reads.bind (hfields.list s.volumes Volume.toJson (by simp)
      fun x hx => Volume.ofJson?_toJson (h x hx)) ?_
    refine Reads.bind (hfields.optionalText s.restartPolicy (by simp)) ?_
    exact .pure s

end PodSpec

namespace Pod

/-- The sources of the volumes are values. -/
def Settled (p : Pod) : Prop := ∀ x ∈ p.spec.volumes, x.Settled

theorem ofJson?_toJson {p : Pod} (h : p.Settled) : Pod.ofJson? p.toJson = some p := by
  apply read?_write
  · simp [Distinct]
  · intro hfields
    refine Reads.bind (hfields.required (.str p.apiVersion) (by simp) rfl) ?_
    refine Reads.bind (hfields.required (.str p.kind) (by simp) rfl) ?_
    refine Reads.bind (hfields.written p.metadata.toJson (by simp) p.metadata.ofJson?_toJson) ?_
    refine Reads.bind (hfields.written p.spec.toJson (by simp) (PodSpec.ofJson?_toJson h)) ?_
    refine Reads.bind (hfields.optional p.status PodStatus.toJson (by simp) fun s _ => ?_) ?_
    · exact congrArg (Option.map some) s.ofJson?_toJson
    exact .pure p

/-- The volumes that the description of a pod lists. -/
def writtenVolumes (v : Json) : List Json :=
  (((field? "spec" 3 v).bind (field? "volumes" 1)).bind Json.items?).getD []

theorem spec_of_ofJson? {v : Json} {p : Pod} (h : Pod.ofJson? v = some p) :
    Found {} PodSpec.ofJson? (field? "spec" 3 v) p.spec := by
  obtain ⟨_, h⟩ := exists_of_read? h
  obtain ⟨version, -, h⟩ := exists_of_required h
  obtain ⟨kind, -, h⟩ := exists_of_required h
  obtain ⟨metadata, -, h⟩ := exists_of_defaulted h
  obtain ⟨spec, hspec, h⟩ := exists_of_defaulted h
  obtain ⟨status, -, h⟩ := exists_of_defaulted h
  cases h
  exact hspec

theorem volumes_of_ofJson? {v : Json} {s : PodSpec} (h : PodSpec.ofJson? v = some s) :
    Found [] (Json.list? Volume.ofJson?) (field? "volumes" 1 v) s.volumes := by
  obtain ⟨_, h⟩ := exists_of_read? h
  obtain ⟨containers, -, h⟩ := exists_of_defaulted h
  obtain ⟨volumes, hvolumes, h⟩ := exists_of_defaulted h
  obtain ⟨restartPolicy, -, h⟩ := exists_of_defaulted h
  cases h
  exact hvolumes

/-- The volumes of a pod are those that its description lists, each of them read. -/
theorem mapM_writtenVolumes {v : Json} {p : Pod} (h : Pod.ofJson? v = some p) :
    (writtenVolumes v).mapM Volume.ofJson? = some p.spec.volumes := by
  have hspec := spec_of_ofJson? h
  unfold writtenVolumes
  cases hfield : field? "spec" 3 v with
  | none =>
    rw [hfield] at hspec
    have hspec : p.spec = {} := hspec
    rw [hspec]
    rfl
  | some j =>
    rw [hfield] at hspec
    exact (volumes_of_ofJson? hspec).mapM_items

/-- Every volume of a pod that was read is settled. -/
theorem settled_of_ofJson? {v : Json} {p : Pod} (h : Pod.ofJson? v = some p) : p.Settled := by
  intro x hx
  obtain ⟨j, -, hj⟩ := Json.exists_of_mem_mapM (mapM_writtenVolumes h) hx
  exact (Volume.of_ofJson? hj).1

/-- The volumes of a pod that was read stand for what its description lists. -/
theorem toJson_volumes {v : Json} {p : Pod} (h : Pod.ofJson? v = some p) :
    p.spec.volumes.map (·.toJson.canonical) = (writtenVolumes v).map (·.canonical) :=
  Json.map_of_mapM (mapM_writtenVolumes h) fun _ _ hj => (Volume.of_ofJson? hj).2

end Pod

/-! ### Services -/

theorem portNumber?_nat {n : Nat} (h : n ≤ Text.maxPort) : portNumber? (.nat n) = some n :=
  if_pos h

theorem le_of_portNumber? {j : Json} {n : Nat} (h : portNumber? j = some n) :
    n ≤ Text.maxPort := by
  unfold portNumber? Json.nat? at h
  split at h
  · split at h
    · rename_i hle
      exact Option.some.inj h ▸ hle
    · cases h
  · cases h

/-- An optional port that was found is a port number. -/
theorem le_of_found {value : Option Json} {port : Option Nat}
    (h : Found none (Json.optional? portNumber?) value port) :
    ∀ n, port = some n → n ≤ Text.maxPort := by
  intro n hn
  subst hn
  cases value with
  | none => cases h
  | some j =>
    have h : Json.optional? portNumber? j = some (some n) := h
    unfold Json.optional? at h
    split at h
    · cases h
    · obtain ⟨m, hread, hm⟩ := Option.map_eq_some_iff.1 h
      exact le_of_portNumber? (Option.some.inj hm ▸ hread)

namespace ServicePort

/-- Every port is a port number. -/
structure InRange (p : ServicePort) : Prop where
  port : p.port ≤ Text.maxPort
  targetPort : ∀ n, p.targetPort = some n → n ≤ Text.maxPort
  nodePort : ∀ n, p.nodePort = some n → n ≤ Text.maxPort

theorem ofJson?_toJson {p : ServicePort} (h : p.InRange) : ServicePort.ofJson? p.toJson = some p := by
  apply read?_write
  · simp [Distinct]
  · intro hfields
    refine Reads.bind (hfields.optionalText p.name (by simp)) ?_
    refine Reads.bind (hfields.required (.nat p.port) (by simp) (portNumber?_nat h.port)) ?_
    refine Reads.bind (hfields.optional p.targetPort .nat (by simp) fun n hn => ?_) ?_
    · exact congrArg (Option.map some) (portNumber?_nat (h.targetPort n hn))
    refine Reads.bind (hfields.optional p.nodePort .nat (by simp) fun n hn => ?_) ?_
    · exact congrArg (Option.map some) (portNumber?_nat (h.nodePort n hn))
    refine Reads.bind (hfields.optionalText p.protocol (by simp)) ?_
    exact .pure p

theorem inRange_of_ofJson? {v : Json} {p : ServicePort} (h : ServicePort.ofJson? v = some p) :
    p.InRange := by
  obtain ⟨_, h⟩ := exists_of_read? h
  obtain ⟨name, -, h⟩ := exists_of_defaulted h
  obtain ⟨port, ⟨_, -, hport⟩, h⟩ := exists_of_required h
  obtain ⟨targetPort, htarget, h⟩ := exists_of_defaulted h
  obtain ⟨nodePort, hnode, h⟩ := exists_of_defaulted h
  obtain ⟨protocol, -, h⟩ := exists_of_defaulted h
  cases h
  exact ⟨le_of_portNumber? hport, le_of_found htarget, le_of_found hnode⟩

end ServicePort

namespace ServiceSpec

theorem ofJson?_toJson {s : ServiceSpec} (h : ∀ p ∈ s.ports, p.InRange) :
    ServiceSpec.ofJson? s.toJson = some s := by
  apply read?_write
  · simp [Distinct]
  · intro hfields
    refine Reads.bind (hfields.optionalText s.type (by simp)) ?_
    refine Reads.bind (hfields.texts s.selector (by simp)) ?_
    refine Reads.bind (a := s.ports) (hfields.written _ (by simp)
      (Json.list?_arr fun p hp => ServicePort.ofJson?_toJson (h p hp))) ?_
    exact .pure s

theorem inRange_of_ofJson? {v : Json} {s : ServiceSpec} (h : ServiceSpec.ofJson? v = some s) :
    ∀ p ∈ s.ports, p.InRange := by
  obtain ⟨_, h⟩ := exists_of_read? h
  obtain ⟨type, -, h⟩ := exists_of_defaulted h
  obtain ⟨selector, -, h⟩ := exists_of_defaulted h
  obtain ⟨ports, hports, h⟩ := exists_of_defaulted h
  cases h
  intro p hp
  obtain ⟨_, -, hread⟩ := Json.exists_of_mem_mapM hports.mapM_items hp
  exact ServicePort.inRange_of_ofJson? hread

end ServiceSpec

namespace Service

/-- The ports are port numbers. -/
def InRange (s : Service) : Prop := ∀ p ∈ s.spec.ports, p.InRange

theorem ofJson?_toJson {s : Service} (h : s.InRange) : Service.ofJson? s.toJson = some s := by
  apply read?_write
  · simp [Distinct]
  · intro hfields
    refine Reads.bind (hfields.required (.str s.apiVersion) (by simp) rfl) ?_
    refine Reads.bind (hfields.required (.str s.kind) (by simp) rfl) ?_
    refine Reads.bind (hfields.written s.metadata.toJson (by simp) s.metadata.ofJson?_toJson) ?_
    refine Reads.bind (hfields.written s.spec.toJson (by simp)
      (ServiceSpec.ofJson?_toJson h)) ?_
    exact .pure s

theorem inRange_of_ofJson? {v : Json} {s : Service} (h : Service.ofJson? v = some s) :
    s.InRange := by
  obtain ⟨_, h⟩ := exists_of_read? h
  obtain ⟨version, -, h⟩ := exists_of_required h
  obtain ⟨kind, -, h⟩ := exists_of_required h
  obtain ⟨metadata, -, h⟩ := exists_of_defaulted h
  obtain ⟨spec, hspec, h⟩ := exists_of_defaulted h
  cases h
  intro p hp
  cases hfield : field? "spec" 3 v with
  | none =>
    rw [hfield] at hspec
    have hempty : spec = {} := hspec
    cases hempty ▸ hp
  | some j =>
    rw [hfield] at hspec
    exact ServiceSpec.inRange_of_ofJson? hspec p hp

end Service

/-! ### What the hub builds itself -/

theorem NodePod.settled_pod {n : NodePod}
    (h : ∀ folder, n.sharedFolder = some folder → folder.volume.Settled) : n.pod.Settled := by
  intro x hx
  rcases List.mem_cons.1 hx with rfl | hx
  · intro e he
    cases List.mem_singleton.1 he
    rfl
  · obtain ⟨folder, hfolder, rfl⟩ := List.mem_map.1 hx
    exact h folder (Option.mem_toList.1 hfolder)

theorem ScreenService.inRange_service {s : ScreenService} (h : s.port ≤ Text.maxPort) :
    s.service.InRange := by
  intro p hp
  cases List.mem_singleton.1 hp
  refine ⟨h, fun n hn => ?_, nofun⟩
  exact Option.some.inj hn ▸ h

/-! ### The round trip -/

/-- Writing is a normal form of what can be read: it is read as the same record and written alike
again, and records that were read and are written alike are the same. -/
structure NormalForm {α : Type} (read : Json → Option α) (write : α → Json) : Prop where
  back : ∀ v a, read v = some a → read (write a) = some a
  again : ∀ v a, read v = some a → (read (write a)).map write = some (write a)
  lossless : ∀ v w a b, read v = some a → read w = some b → write a = write b → a = b

theorem NormalForm.of_back {α : Type} {read : Json → Option α} {write : α → Json}
    (hback : ∀ v a, read v = some a → read (write a) = some a) : NormalForm read write where
  back := hback
  again v a h := by
    rw [hback v a h]
    rfl
  lossless v w a b ha hb heq := by
    have hread : read (write a) = some b := heq ▸ hback w b hb
    rw [hback v a ha] at hread
    exact Option.some.inj hread

/-- A pod or service that was read is in order, with its volumes kept; so is what the hub builds,
when the volume that it passes through was read. -/
theorem descriptions_roundTrip :
    NormalForm Pod.ofJson? Pod.toJson ∧ NormalForm Service.ofJson? Service.toJson ∧
      (∀ v p, Pod.ofJson? v = some p →
        (Pod.writtenVolumes p.toJson).map (·.canonical) =
          (Pod.writtenVolumes v).map (·.canonical)) ∧
      (∀ n : NodePod,
        (∀ folder, n.sharedFolder = some folder →
          ∃ v p, Pod.ofJson? v = some p ∧ folder.volume ∈ p.spec.volumes) →
        Pod.ofJson? n.pod.toJson = some n.pod) ∧
      ∀ s : ScreenService, s.port ≤ Text.maxPort →
        Service.ofJson? s.service.toJson = some s.service := by
  have hpod : ∀ v p, Pod.ofJson? v = some p → Pod.ofJson? p.toJson = some p := fun _ _ h =>
    Pod.ofJson?_toJson (Pod.settled_of_ofJson? h)
  have hservice : ∀ v s, Service.ofJson? v = some s → Service.ofJson? s.toJson = some s :=
    fun _ _ h => Service.ofJson?_toJson (Service.inRange_of_ofJson? h)
  refine ⟨.of_back hpod, .of_back hservice, fun v p h => ?_, fun n hn => ?_, fun s hs => ?_⟩
  · rw [← Pod.toJson_volumes h, ← Pod.toJson_volumes (hpod v p h)]
  · refine Pod.ofJson?_toJson (NodePod.settled_pod fun folder hfolder => ?_)
    obtain ⟨v, p, hread, hmem⟩ := hn folder hfolder
    exact Pod.settled_of_ofJson? hread folder.volume hmem
  · exact Service.ofJson?_toJson (ScreenService.inRange_service hs)

/-- A pod written as a list, with a volume whose source has members out of order. -/
def listedPod : Json :=
  .arr [.str "v1", .str "Pod", .arr [.str "hub"],
    .obj [("containers", .arr [.arr [.str "app"]]),
      ("volumes", .arr [.obj [("hostPath", .obj [("type", .null), ("path", .str "/data")]),
        ("name", .str "data")]])]]

theorem descriptions_roundTrip_listed :
    ∃ p, Pod.ofJson? listedPod = some p ∧ Pod.ofJson? p.toJson = some p ∧
      (Pod.writtenVolumes p.toJson).map (·.canonical) =
        [.obj [("hostPath", .obj [("path", .str "/data"), ("type", .null)]),
          ("name", .str "data")]] := by
  obtain ⟨p, hp⟩ : ∃ p, Pod.ofJson? listedPod = some p := Option.isSome_iff_exists.1 (by decide)
  obtain ⟨hpods, -, hvolumes, -⟩ := descriptions_roundTrip
  refine ⟨p, hp, hpods.back listedPod p hp, ?_⟩
  rw [hvolumes listedPod p hp]
  decide

end BrowserGrid
