import TrafficSteering.Proofs.Engine.Arguments
import TrafficSteering.Proofs.Engine.HookReading

namespace TrafficSteering

open Engine HookTag

variable {key : String} {ids : Nat → String} {faults : Faults} {s t : Service} {m : Memory}

namespace Inventory

variable (v : Inventory)

def endpoint (portId : Option String) (pairId : String) : Option NetworkElement :=
  (portId.bind (v.find? .port)).map (Lookup.networkElement · (some pairId))

def inspectionPort (groupId : Option String) (pair : PortPair) : InspectionPort where
  elementId := pair.id
  parentId := groupId
  ingressPort := v.endpoint pair.ingress (Kind.portPair.key pair)
  egressPort := v.endpoint pair.egress (Kind.portPair.key pair)

def inspectionPorts (groupId : String) (pairIds : List String) : List InspectionPort :=
  (pairIds.filterMap (v.find? .portPair)).map (v.inspectionPort (some groupId))

def groupElement (chainId : String) (group : PortPairGroup) : GroupElement where
  elementId := some (Kind.portPairGroup.key group)
  inspectionPorts := v.inspectionPorts (Kind.portPairGroup.key group) group.portPairs
  chainId := some chainId

def groupElements (chainId : String) (groupIds : List String) : List GroupElement :=
  (groupIds.filterMap (v.find? .portPairGroup)).map (v.groupElement chainId)

def tree (chain : PortChain) : ServiceFunctionChain where
  elementId := some (Kind.portChain.key chain)
  portPairGroups := v.groupElements (Kind.portChain.key chain) chain.portPairGroups
  flowClassifierIds := chain.flowClassifiers

/-- No pair and no group refers to the empty id, under which nothing can be looked up. -/
structure Legible : Prop where
  ended : ∀ p ∈ v.portPairs, PortPair.Ended p
  listed : ∀ g ∈ v.portPairGroups, "" ∉ g.portPairs

end Inventory

namespace Atomic

theorem endpoint {portId : Option String} (h : portId ≠ some "") (pairId : String) :
    Atomic ids faults (Lookup.endpoint portId pairId) s (.ok (s.endpoint portId pairId)) s := by
  cases portId with
  | none => exact done
  | some id => exact last (get_of_ne s .port fun hid ↦ h (congrArg some hid))

theorem inspectionPort {pair : PortPair} (h : pair.Ended) (groupId : Option String) :
    Atomic ids faults (Lookup.inspectionPort pair groupId) s
      (.ok (s.inspectionPort groupId pair)) s :=
  bind (endpoint h.1 _) (bind (endpoint h.2 _) done)

theorem inspectionPorts (h : s.Legible) (groupId : String) {pairIds : List String}
    (hpairs : "" ∉ pairIds) :
    Atomic ids faults (Lookup.inspectionPorts groupId pairIds) s
      (.ok (s.inspectionPorts groupId pairIds)) s := by
  induction pairIds with
  | nil => exact done
  | cons id rest ih =>
    obtain ⟨hid, hrest⟩ := not_or.1 (mt List.mem_cons.2 hpairs)
    refine bind (get_of_ne s .portPair (Ne.symm hid)) ?_
    rw [Inventory.inspectionPorts]
    cases hfind : s.find? .portPair id with
    | none =>
      rw [List.filterMap_cons_none hfind]
      exact ih hrest
    | some pair =>
      have hended := h.ended pair (List.mem_of_find?_eq_some hfind)
      rw [List.filterMap_cons_some hfind, List.map_cons]
      exact bind (inspectionPort hended _) (last (ih hrest))

theorem groups (h : s.Legible) (chainId : String) {groupIds : List String}
    (hgroups : "" ∉ groupIds) :
    Atomic ids faults (Lookup.groups chainId groupIds) s
      (.ok (s.groupElements chainId groupIds)) s := by
  induction groupIds with
  | nil => exact done
  | cons id rest ih =>
    obtain ⟨hid, hrest⟩ := not_or.1 (mt List.mem_cons.2 hgroups)
    refine bind (get_of_ne s .portPairGroup (Ne.symm hid)) ?_
    rw [Inventory.groupElements]
    cases hfind : s.find? .portPairGroup id with
    | none =>
      rw [List.filterMap_cons_none hfind]
      exact ih hrest
    | some group =>
      have hlisted := h.listed group (List.mem_of_find?_eq_some hfind)
      obtain ⟨rfl, -⟩ := Inventory.find?_eq_some hfind
      rw [List.filterMap_cons_some hfind, List.map_cons]
      exact bind (inspectionPorts h _ hlisted) (last (ih hrest))

theorem tree (h : s.Legible) {chain : PortChain} (hgroups : "" ∉ chain.portPairGroups) :
    Atomic ids faults (Lookup.chainTree chain) s (.ok (s.tree chain)) s := last (groups h _ hgroups)

end Atomic

theorem Service.Sound.map_key_find? (hs : s.Sound ids) (kind : Kind) {l : List String}
    (h : ∀ id ∈ l, s.Stores kind id) : (l.filterMap (s.find? kind)).map kind.key = l := by
  induction l with
  | nil => rfl
  | cons id rest ih =>
    obtain ⟨hid, hrest⟩ := List.forall_mem_cons.1 h
    obtain ⟨r, hr, hkey⟩ := hid
    have hfind : s.find? kind id = some r := Kind.key_eq hkey ▸ hs.find?_of_mem kind hr
    rw [List.filterMap_cons_some hfind, List.map_cons, ih hrest, Kind.key_eq hkey]

/-- The element tells of a chain which groups and which classifiers it lists, and in what order. -/
structure ServiceFunctionChain.Tells (tree : ServiceFunctionChain) (chain : PortChain) : Prop where
  elementId : tree.elementId = chain.id
  groups : tree.portPairGroups.map (·.elementId) = chain.portPairGroups.map some
  classifiers : tree.flowClassifierIds = chain.flowClassifiers

theorem Lookup.shallowChain_tells {chain : PortChain} (h : chain.id ≠ none) :
    (shallowChain chain).Tells chain := by
  obtain ⟨id, hid⟩ := Option.ne_none_iff_exists'.1 h
  exact ⟨by simp [shallowChain, hid], by simp [shallowChain], rfl⟩

theorem Service.Valid.tree_tells (hv : s.Valid ids) {chain : PortChain}
    (h : chain ∈ s.portChains) : (s.tree chain).Tells chain where
  elementId := (hv.sound.idOf_eq .portChain h).symm
  groups := by
    have hkeys := hv.sound.map_key_find? .portPairGroup (hv.linked.groupsStored chain h)
    rw [Inventory.tree, Inventory.groupElements, List.map_map]
    conv_rhs => rw [← hkeys, List.map_map]
    rfl
  classifiers := rfl

namespace Service.Orderly

theorem legible (h : s.Orderly key ids) : s.Legible where
  ended := h.ended
  listed g hg hempty := h.stored_ne (by decide) (h.valid.linked.pairsStored g hg "" hempty) rfl

theorem tree (h : s.Orderly key ids) {chain : PortChain} (hchain : chain ∈ s.portChains) :
    Atomic ids faults (Lookup.chainTree chain) s (.ok (s.tree chain)) s :=
  .tree h.legible fun hempty ↦
    h.stored_ne (by decide) (h.valid.linked.groupsStored chain hchain "" hempty) rfl

theorem visible_key (h : s.Orderly key ids) (kind : Kind) (hport : kind ≠ .port)
    {r : kind.Resource} (hr : r ∈ s.get kind) : Text.blank (kind.key r) = false := by
  obtain ⟨n, -, hid⟩ := h.valid.sound.drawn kind hport r hr
  rw [hid]
  exact h.visible n

theorem getChain (h : s.Orderly key ids) {c : PortChain} (hc : c ∈ s.portChains)
    {chain : Element} (hid : chain.id = c.id) :
    Atomic ids faults (getChain chain) s (.ok (s.tree c)) s := by
  obtain ⟨l₁, l₂, hsplit⟩ := List.append_of_mem hc
  have hnamed : Guard.requireId chain "Service Function Chain Id" = .ok (Kind.portChain.key c) :=
    Guard.requireText_eq_ok_iff.2
      ⟨hid.trans (h.valid.sound.idOf_eq .portChain hc), h.visible_key .portChain (by decide) hc⟩
  exact .getChain h.valid.sound hsplit hnamed (h.tree hc)

theorem after (h : s.Orderly key ids) (r : Request) {x : Except Error r.Value}
    (hrun : r.run key ids (s.memory []) = (x, t.memory [])) : t.Orderly key ids := by
  obtain ⟨rest, u, hu, horderly⟩ := h.apply [] (.request r)
  have happly : (Event.request r).apply key ids (s.memory []) = t.memory [] :=
    congrArg Prod.snd hrun
  exact Service.memory_injective (happly.symm.trans hu) ▸ horderly

end Service.Orderly

theorem Service.Sound.find?_of_stores (hs : s.Sound ids) {kind : Kind} {id : String}
    (h : s.Stores kind id) : ∃ r, s.find? kind id = some r :=
  Option.ne_none_iff_exists'.1 fun hnone ↦ hs.find?_eq_none_iff.1 hnone h

theorem Service.Orderly.exists_classifier (h : s.Orderly key ids) {hookId : String}
    (hstored : s.Stores .flowClassifier hookId) :
    ∃ classifier, s.find? .flowClassifier hookId = some classifier ∧
      ∀ p, s.taggedPort key classifier = some p ↔ p ∈ s.ports ∧ tag? key p = some hookId := by
  obtain ⟨classifier, hfind⟩ := h.valid.sound.find?_of_stores hstored
  obtain ⟨rfl, -⟩ := Inventory.find?_eq_some hfind
  have hid : classifier.id = some (Kind.flowClassifier.key classifier) :=
    h.valid.sound.idOf_eq .flowClassifier (List.mem_of_find?_eq_some hfind)
  exact ⟨classifier, hfind, fun p ↦
    ⟨Inventory.taggedPort_eq_some hid, fun ⟨hp, htag⟩ ↦ h.tagged.taggedPort hid hp htag⟩⟩

theorem Reachable.calm_orderly (hids : Function.Injective ids)
    (hblank : ∀ n, Text.blank (ids n) = false) (hm : Reachable key ids m)
    (hcalm : m.failures = []) :
    ∃ s : Service, m = s.memory [] ∧ s.Orderly key ids := by
  obtain ⟨s, failures, rfl, h⟩ := hm.orderly hids hblank
  cases hcalm
  exact ⟨s, rfl, h⟩

end TrafficSteering
