import TrafficSteering.Engine.Hooks
import TrafficSteering.Proofs.Service.Calls

namespace TrafficSteering

variable {ids : Nat → String} {faults : Faults} {s t : Service}

namespace Inventory

variable (v : Inventory)

def pairByPorts (ingress egress : Option String) : Option PortPair :=
  v.portPairs.find? fun p ↦ p.ingress == ingress && p.egress == egress

def pairById (id : Option String) : Option PortPair :=
  id.bind fun id ↦ if id = "" then none else v.find? .portPair id

def pairOf (port : InspectionPort) : Option PortPair :=
  (v.pairById port.elementId).or
    (if port.ingressId.isNone && port.egressId.isNone then none
    else v.pairByPorts port.ingressId port.egressId)

def groupOfPair (pairId : String) : Option PortPairGroup :=
  v.portPairGroups.find? (·.portPairs.contains pairId)

def chainOfClassifier (classifierId : String) : Option PortChain :=
  v.portChains.find? (·.flowClassifiers.contains classifierId)

variable {v}

theorem pairByPorts_eq_none {ingress egress : Option String}
    (h : v.pairByPorts ingress egress = none) :
    ∀ p ∈ v.portPairs, (p.ingress, p.egress) ≠ (ingress, egress) := by
  intro p hp he
  have hne := List.find?_eq_none.1 h p hp
  simp_all

theorem groupOfPair_eq_none {pairId : String} :
    v.groupOfPair pairId = none ↔ v.Free pairId .portPair := by
  simp [groupOfPair, Free]

theorem groupOfPair_eq_some {pairId : String} {g : PortPairGroup}
    (h : v.groupOfPair pairId = some g) : g ∈ v.portPairGroups ∧ pairId ∈ g.portPairs :=
  ⟨List.mem_of_find?_eq_some h, by simpa using List.find?_some h⟩

theorem chainOfClassifier_eq_none {hookId : String} :
    v.chainOfClassifier hookId = none ↔ v.Free hookId .flowClassifier := by
  simp [chainOfClassifier, Free]

theorem chainOfClassifier_eq_some {hookId : String} {c : PortChain}
    (h : v.chainOfClassifier hookId = some c) : c ∈ v.portChains ∧ hookId ∈ c.flowClassifiers :=
  ⟨List.mem_of_find?_eq_some h, by simpa using List.find?_some h⟩

theorem pairOf_congr {w : Inventory} (h : w.portPairs = v.portPairs) (port : InspectionPort) :
    w.pairOf port = v.pairOf port := by
  have hfind := find?_congr .portPair h
  simp only [pairOf, pairById, pairByPorts, hfind, h]

theorem mem_of_pairOf {port : InspectionPort} {p : PortPair} (h : v.pairOf port = some p) :
    p ∈ v.portPairs := by
  rw [pairOf, Option.or_eq_some_iff] at h
  obtain hid | ⟨-, hends⟩ := h
  · obtain ⟨id, -, hid⟩ := Option.bind_eq_some_iff.1 hid
    split at hid
    · cases hid
    · exact List.mem_of_find?_eq_some hid
  · split at hends
    · cases hends
    · exact List.mem_of_find?_eq_some hends

variable (v)

/-- Every group is stored, and no chain but the allowed one lists any of them. -/
def Chainable (groupIds : List String) (allowed : Option String) : Prop :=
  (∀ id ∈ groupIds, id ≠ "" ∧ v.Stores .portPairGroup id) ∧
    ∀ id ∈ groupIds, ∀ c ∈ v.portChains, (∀ a ∈ allowed, c.id ≠ some a) → id ∉ c.portPairGroups

end Inventory

namespace Atomic

theorem pairByPorts (s : Service) (ingress egress : Option String) :
    Atomic ids faults (Lookup.pairByPorts ingress egress) s
      (.ok (s.pairByPorts ingress egress)) s := last (listAll s .portPair)

theorem groupOfPair (s : Service) (pairId : String) :
    Atomic ids faults (Lookup.groupOfPair pairId) s (.ok (s.groupOfPair pairId)) s :=
  last (listAll s .portPairGroup)

theorem chainOfClassifier (s : Service) (classifierId : String) :
    Atomic ids faults (Lookup.chainOfClassifier classifierId) s
      (.ok (s.chainOfClassifier classifierId)) s := last (listAll s .portChain)

theorem pairOf (s : Service) (port : InspectionPort) :
    Atomic ids faults (Lookup.pairOf port) s (.ok (s.pairOf port)) s := by
  have hports : Atomic ids faults
      (if port.ingressId.isNone && port.egressId.isNone then pure none
        else Lookup.pairByPorts port.ingressId port.egressId) s
      (.ok (if port.ingressId.isNone && port.egressId.isNone then none
        else s.pairByPorts port.ingressId port.egressId)) s := by
    split
    · exact done
    · exact pairByPorts s _ _
  rw [Lookup.pairOf, Inventory.pairOf]
  cases port.elementId with
  | none => exact hports
  | some id =>
    by_cases hblank : id = ""
    · simp only [hblank, if_true, Inventory.pairById, Option.bind_some, Option.none_or]
      exact hports
    · simp only [hblank, if_false, Inventory.pairById, Option.bind_some]
      refine bind (get_of_ne s .portPair hblank) ?_
      cases s.find? .portPair id with
      | some pair => exact done
      | none => exact hports

theorem requireGroups (hs : s.Sound ids) (groupIds : List String) :
    ∃ r, (∀ faults, Atomic ids faults (Lookup.requireGroups groupIds) s r s) ∧
      (r = .ok () ↔ ∀ id ∈ groupIds, id ≠ "" ∧ s.Stores .portPairGroup id) := by
  induction groupIds with
  | nil => exact ⟨.ok (), fun _ ↦ done, by simp⟩
  | cons id rest ih =>
    by_cases hid : id = ""
    · rw [hid]
      exact ⟨_, fun _ ↦ stop (get_blank s .portPairGroup), by simp⟩
    · have hget (faults : Faults) : Atomic ids faults (Gateway.get .portPairGroup id) s _ s :=
        get_of_ne s .portPairGroup hid
      cases hfind : s.find? .portPairGroup id with
      | none =>
        have hstored := hs.find?_eq_none_iff.1 hfind
        rw [hfind] at hget
        exact ⟨_, fun faults ↦ bind (hget faults) fail, by simp [hstored]⟩
      | some g =>
        have hstored : s.Stores .portPairGroup id :=
          hs.stores_of_find? hfind
        obtain ⟨r, hr, hiff⟩ := ih
        rw [hfind] at hget
        exact ⟨r, fun faults ↦ bind (hget faults) (hr faults), by simp [hiff, hid, hstored]⟩

theorem chainedGroup?_eq_none_iff {chains : List PortChain} {allowed : Option String}
    {groupIds : List String} : Lookup.chainedGroup? chains allowed groupIds = none ↔
      ∀ id ∈ groupIds, ∀ c ∈ chains, (∀ a ∈ allowed, c.id ≠ some a) → id ∉ c.portPairGroups := by
  cases allowed <;> simp [Lookup.chainedGroup?]

theorem validateGroups (hs : s.Sound ids) (groupIds : List String) (allowed : Option String) :
    ∃ r, (∀ faults, Atomic ids faults (Lookup.validateGroups groupIds allowed) s r s) ∧
      (r = .ok () ↔ s.Chainable groupIds allowed) := by
  obtain ⟨r, hr, hstored⟩ := requireGroups hs groupIds
  cases r with
  | error e =>
    refine ⟨_, fun faults ↦ stop (hr faults), ?_⟩
    simp [Inventory.Chainable, ← hstored]
  | ok _ =>
    have hlist (faults : Faults) : Atomic ids faults (Gateway.list .portChain []) s _ s :=
      listAll s .portChain
    cases hchained : Lookup.chainedGroup? s.portChains allowed groupIds with
    | none =>
      refine ⟨.ok (), fun faults ↦ bind (hr faults) (bind (hlist faults) ?_), ?_⟩
      · simp only [show Lookup.chainedGroup? (s.get .portChain) allowed groupIds = none
          from hchained]
        exact done
      · simpa [Inventory.Chainable, ← hstored] using chainedGroup?_eq_none_iff.1 hchained
    | some found =>
      refine ⟨.error (Lookup.chainedElsewhere found.1 (found.2.id.getD "")),
        fun faults ↦ bind (hr faults) (bind (hlist faults) ?_), ?_⟩
      · simp only [show Lookup.chainedGroup? (s.get .portChain) allowed groupIds = some found
          from hchained]
        exact fail
      · have hnone := mt chainedGroup?_eq_none_iff.2 (hchained ▸ Option.some_ne_none found)
        exact ⟨nofun, fun h ↦ absurd h.2 hnone⟩

end Atomic

def ReadsAlike {α : Type} (ids : Nat → String) (p : Program α) (s t : Service) : Prop :=
  ∃ r, ∀ faults, Atomic ids faults p s r s ∧ Atomic ids faults p t r t

namespace ReadsAlike

variable {α β : Type}

theorem done (a : α) : ReadsAlike ids (pure a) s t := ⟨.ok a, fun _ ↦ ⟨.done, .done⟩⟩

theorem bind {p : Program α} {f : α → Program β} (hp : ReadsAlike ids p s t)
    (hf : ∀ a, ReadsAlike ids (f a) s t) : ReadsAlike ids (p >>= f) s t := by
  obtain ⟨r, hr⟩ := hp
  cases r with
  | error e => exact ⟨.error e, fun faults ↦ ⟨(hr faults).1.stop, (hr faults).2.stop⟩⟩
  | ok a =>
    obtain ⟨r', hr'⟩ := hf a
    exact ⟨r', fun faults ↦ ⟨(hr faults).1.bind (hr' faults).1, (hr faults).2.bind (hr' faults).2⟩⟩

theorem get (kind : Kind) (h : t.get kind = s.get kind) (id : String) :
    ReadsAlike ids (Gateway.get kind id) s t := by
  have hfetch : t.fetch kind id = s.fetch kind id := by
    rw [Service.fetch, Service.fetch, Inventory.find?_congr kind h]
  exact ⟨s.fetch kind id, fun _ ↦ ⟨.get s kind id, hfetch ▸ .get t kind id⟩⟩

section

variable (hports : ∀ id parentId, (t.find? .port id).map (Lookup.networkElement · parentId) =
    (s.find? .port id).map (Lookup.networkElement · parentId))
  (hpairs : t.portPairs = s.portPairs) (hgroups : t.portPairGroups = s.portPairGroups)

include hports

theorem endpoint (portId : Option String) (parentId : String) :
    ReadsAlike ids (Lookup.endpoint portId parentId) s t := by
  cases portId with
  | none => exact done none
  | some id =>
    by_cases hid : id = ""
    · rw [hid]
      exact ⟨_, fun _ ↦ ⟨.stop (.get_blank s .port), .stop (.get_blank t .port)⟩⟩
    · refine ⟨_, fun _ ↦ ⟨.last (.get_of_ne s .port hid), ?_⟩⟩
      rw [← hports]
      exact .last (.get_of_ne t .port hid)

theorem inspectionPort (pair : PortPair) (groupId : Option String) :
    ReadsAlike ids (Lookup.inspectionPort pair groupId) s t :=
  bind (endpoint hports pair.ingress _) fun _ ↦ bind (endpoint hports pair.egress _) fun _ ↦ done _

include hpairs

theorem inspectionPorts (groupId : String) (pairIds : List String) :
    ReadsAlike ids (Lookup.inspectionPorts groupId pairIds) s t := by
  induction pairIds with
  | nil => exact done []
  | cons id rest ih =>
    refine bind (get .portPair hpairs id) fun found ↦ ?_
    cases found with
    | none => exact ih
    | some pair => exact bind (inspectionPort hports pair _) fun _ ↦ bind ih fun _ ↦ done _

include hgroups

theorem groups (chainId : String) (groupIds : List String) :
    ReadsAlike ids (Lookup.groups chainId groupIds) s t := by
  induction groupIds with
  | nil => exact done []
  | cons id rest ih =>
    refine bind (get .portPairGroup hgroups id) fun found ↦ ?_
    cases found with
    | none => exact ih
    | some group =>
      exact bind (inspectionPorts hports hpairs id group.portPairs) fun _ ↦ bind ih fun _ ↦ done _

theorem chainTree (chain : PortChain) : ReadsAlike ids (Lookup.chainTree chain) s t :=
  bind (groups hports hpairs hgroups _ chain.portPairGroups) fun _ ↦ done _

end

end ReadsAlike

theorem Atomic.chainTree (ids : Nat → String) (s : Service) (chain : PortChain) :
    ∃ r, ∀ faults, Atomic ids faults (Lookup.chainTree chain) s r s := by
  obtain ⟨r, hr⟩ := ReadsAlike.chainTree (t := s) (fun _ _ ↦ rfl) rfl rfl chain
  exact ⟨r, fun faults ↦ (hr faults).1⟩

namespace HookTag

variable (key : String)

def retagged (port : Port) (hookId : Option String) : Port :=
  { port with profile := some (retag key (port.profile.getD Dict.empty) hookId) }

theorem tag?_retagged (port : Port) (hookId : Option String) :
    tag? key (retagged key port hookId) = hookId := by
  cases hookId <;> simp [tag?, retagged, Port.profileText, retag, Json.text?]

theorem retagged_retagged (port : Port) (x y : Option String) :
    retagged key (retagged key port x) y = retagged key port y := by
  have hprofile (profile : Json.Object) :
      retag key (retag key profile x) y = retag key profile y := by
    cases x <;> cases y <;> ext1 k <;> simp only [retag, Dict.get?_insert, Dict.get?_erase] <;>
      split <;> simp_all
  simp only [retagged, Option.getD_some, hprofile]

end HookTag

variable {key : String}

theorem networkElement_retag {l₁ l₂ : List Port} {port : Port} (h : s.ports = l₁ ++ port :: l₂)
    (hookId : Option String) (id : String) (parentId : Option String) :
    ((s.put .port (l₁ ++ HookTag.retagged key port hookId :: l₂)).find? .port id).map
      (Lookup.networkElement · parentId) =
      (s.find? .port id).map (Lookup.networkElement · parentId) := by
  have hkey : Kind.port.key (HookTag.retagged key port hookId) = Kind.port.key port := rfl
  have hports : s.get .port = l₁ ++ port :: l₂ := h
  rw [Inventory.find?, Inventory.find?, Service.get_put_self, hports, List.find?_append,
    List.find?_append, List.find?_cons, List.find?_cons, hkey]
  cases l₁.find? fun r ↦ Kind.port.key r == id with
  | some p => rfl
  | none => cases Kind.port.key port == id <;> rfl

theorem Atomic.taggedWith (s : Service) (hookId : String) :
    Atomic ids faults (HookTag.taggedWith key hookId) s
      (.ok (s.ports.find? fun p ↦ HookTag.tag? key p == some hookId)) s :=
  last (listAll s .port)

def Inventory.taggedPort (v : Inventory) (key : String) (classifier : FlowClassifier) :
    Option Port :=
  classifier.id.bind fun hookId ↦
    (classifier.destinationAddress.bind fun address ↦
      ((v.get .port).filter fun p ↦ Memory.satisfies (Kind.port.encode p)
        (PortFilter.byAddress address).toQuery).find? fun p ↦ HookTag.tag? key p == some hookId).or
      (v.ports.find? fun p ↦ HookTag.tag? key p == some hookId)

theorem Atomic.taggedPort (s : Service) (key : String) (classifier : FlowClassifier) :
    Atomic ids faults (HookTag.taggedPort key classifier) s (.ok (s.taggedPort key classifier))
      s := by
  rw [HookTag.taggedPort, Inventory.taggedPort]
  cases classifier.id with
  | none => exact done
  | some hookId =>
    have htagged : Atomic ids faults (HookTag.taggedWith key hookId) s _ s := taggedWith s hookId
    cases classifier.destinationAddress with
    | none => exact htagged
    | some address =>
      refine bind (list s .port (PortFilter.byAddress address).toQuery) ?_
      simp only [Option.bind_some]
      cases ((s.get .port).filter fun p ↦ Memory.satisfies (Kind.port.encode p)
          (PortFilter.byAddress address).toQuery).find?
            fun p ↦ HookTag.tag? key p == some hookId with
      | none => exact htagged
      | some p => exact done

theorem Inventory.taggedPort_congr {v w : Inventory} (h : w.ports = v.ports)
    (classifier : FlowClassifier) : w.taggedPort key classifier = v.taggedPort key classifier := by
  rw [taggedPort, taggedPort, get, get, h]

theorem Inventory.taggedPort_eq_some {v : Inventory} {classifier : FlowClassifier} {hookId : String}
    (hid : classifier.id = some hookId) {p : Port} (h : v.taggedPort key classifier = some p) :
    p ∈ v.ports ∧ HookTag.tag? key p = some hookId := by
  rw [Inventory.taggedPort, hid, Option.bind_some, Option.or_eq_some_iff] at h
  rcases h with h | ⟨-, h⟩
  · obtain ⟨address, -, haddress⟩ := Option.bind_eq_some_iff.1 h
    have hmem := List.mem_of_find?_eq_some haddress
    exact ⟨(List.mem_filter.1 hmem).1, by simpa using List.find?_some haddress⟩
  · exact ⟨List.mem_of_find?_eq_some h, by simpa using List.find?_some h⟩

theorem Inventory.taggedPort_eq_none {v : Inventory} {classifier : FlowClassifier} {hookId : String}
    (hid : classifier.id = some hookId) (h : v.taggedPort key classifier = none) :
    ∀ p ∈ v.ports, HookTag.tag? key p ≠ some hookId := by
  rw [Inventory.taggedPort, hid, Option.bind_some, Option.or_eq_none_iff] at h
  intro p hp
  simpa using List.find?_eq_none.1 h.2 p hp

end TrafficSteering
