import TrafficSteering.Proofs.Engine.Trees
import TrafficSteering.Proofs.Service.Arrivals
import TrafficSteering.Proofs.Service.Readings

namespace TrafficSteering

open Engine HookTag Json

variable {key : String} {ids : Nat → String} {m : Memory} {kind : Kind} {id : String}

namespace Memory

inductive ShowsEnd (m : Memory) (pairId : String) : Option String → Option NetworkElement → Prop
  | unset : ShowsEnd m pairId none none
  | gone {id : String} (h : id ∉ m.keys .port) : ShowsEnd m pairId (some id) none
  | stored {id : String} {p : Port} (h : m.Reads .port id p) :
      ShowsEnd m pairId (some id) (some {
        elementId := some id
        macAddresses := p.macAddress.toList
        portIps := p.fixedIps.map (·.ipAddress)
        parentId := some pairId })

/-- The inspection port is the stored pair, in its group. -/
structure ShowsPair (m : Memory) (groupId pairId : String) (port : InspectionPort) : Prop where
  elementId : port.elementId = some pairId
  parentId : port.parentId = some groupId
  ends : ∃ pair, m.Reads .portPair pairId pair ∧
    m.ShowsEnd pairId pair.ingress port.ingressPort ∧ m.ShowsEnd pairId pair.egress port.egressPort

/-- The element is the stored group, in its chain, with those of its pairs that are stored. -/
structure ShowsGroup (m : Memory) (chainId groupId : String) (element : GroupElement) : Prop where
  elementId : element.elementId = some groupId
  chainId : element.chainId = some chainId
  pairs : ∃ group, m.Reads .portPairGroup groupId group ∧
    List.Forall₂ (m.ShowsPair groupId) (group.portPairs.filter (· ∈ m.keys .portPair))
      element.inspectionPorts

/-- The tree is the chain, with those of its groups that are stored. -/
structure ShowsChain (m : Memory) (chain : PortChain) (chainId : String)
    (tree : ServiceFunctionChain) : Prop where
  elementId : tree.elementId = some chainId
  classifiers : tree.flowClassifierIds = chain.flowClassifiers
  groups : List.Forall₂ (m.ShowsGroup chainId)
    (chain.portPairGroups.filter (· ∈ m.keys .portPairGroup)) tree.portPairGroups

/-- Neither a group of the chain nor a pair of any of its groups is left out. -/
structure ShowsWhole (m : Memory) (chain : PortChain) (tree : ServiceFunctionChain) : Prop where
  groups : tree.portPairGroups.map (·.elementId) = chain.portPairGroups.map some
  pairs : ∀ element ∈ tree.portPairGroups, ∃ groupId group, element.elementId = some groupId ∧
    m.Reads .portPairGroup groupId group ∧
    element.inspectionPorts.map (·.elementId) = group.portPairs.map some

/-- All that is stored can be read, and no pair and no group refers to the empty id. -/
structure Legible (m : Memory) : Prop where
  readable : ∀ kind id value, (m.collections.get kind).get? id = some value →
    ∃ r, kind.decode (ofObject value) = .ok r
  ended : m.Ended
  listed : ∀ id group, m.Reads .portPairGroup id group → "" ∉ group.portPairs

structure Intact (m : Memory) : Prop where
  groups : ∀ id chain, m.Reads .portChain id chain →
    ∀ groupId ∈ chain.portPairGroups, groupId ∈ m.keys .portPairGroup
  pairs : ∀ id group, m.Reads .portPairGroup id group →
    ∀ pairId ∈ group.portPairs, pairId ∈ m.keys .portPair

theorem Reads.idOf {r : kind.Resource} (h : m.Reads kind id r) (hm : m.Keyed) :
    kind.idOf r = some id := by
  obtain ⟨value, hget, hr⟩ := h
  exact Kind.idOf_decode ((hm kind).own_of_get? hget) hr

theorem Legible.reads (h : m.Legible) (hid : id ∈ m.keys kind) : ∃ r, m.Reads kind id r := by
  obtain ⟨value, -, hget⟩ := Collection.exists_get? hid
  obtain ⟨r, hr⟩ := h.readable kind id value hget
  exact ⟨r, value, hget, hr⟩

theorem forall₂_filter_keys {β : Type} {R : String → β → Prop} {rest : List String} {l : List β}
    (h : List.Forall₂ R (rest.filter (· ∈ m.keys kind)) l) {b : β} (hid : id ∈ m.keys kind)
    (hb : R id b) : List.Forall₂ R ((id :: rest).filter (· ∈ m.keys kind)) (b :: l) := by
  rw [List.filter_cons_of_pos (by simpa using hid)]
  exact .cons hb h

end Memory

namespace Tells

variable (ids : Nat → String) (hm : m.Keyed) (hcalm : m.failures = []) (h : m.Legible)

include hm hcalm h

theorem endpoint {portId : Option String} (hport : portId ≠ some "") (pairId : String) :
    ∃ element, Tells ids m (Lookup.endpoint portId pairId) (.ok element) ∧
      m.ShowsEnd pairId portId element := by
  cases portId with
  | none => exact ⟨none, done none, .unset⟩
  | some id =>
    have hid : id ≠ "" := fun he ↦ hport (congrArg some he)
    by_cases hstored : id ∈ m.keys .port
    · obtain ⟨p, hp⟩ := h.reads hstored
      have hown : p.id = some id := hp.idOf hm
      refine ⟨_, bind (get_reads hcalm hid hp) (done _), ?_⟩
      rw [Option.map_some, Lookup.networkElement, hown]
      exact .stored hp
    · exact ⟨none, bind (get_absent hcalm hid hstored) (done none), .gone hstored⟩

theorem inspectionPort {pairId : String} {pair : PortPair} (hpair : m.Reads .portPair pairId pair)
    (groupId : String) :
    ∃ port, Tells ids m (Lookup.inspectionPort pair (some groupId)) (.ok port) ∧
      m.ShowsPair groupId pairId port := by
  have hid : pair.id = some pairId := hpair.idOf hm
  obtain ⟨hingress, hegress⟩ : pair.Ended := by
    obtain ⟨value, hget, hr⟩ := hpair
    exact h.ended pairId value pair hget hr
  obtain ⟨ingress, hfirst, hshown⟩ := endpoint ids hm hcalm h hingress pairId
  obtain ⟨egress, hsecond, hshown'⟩ := endpoint ids hm hcalm h hegress pairId
  rw [Lookup.inspectionPort, hid]
  exact ⟨_, bind hfirst (bind hsecond (done _)), rfl, rfl, pair, hpair, hshown, hshown'⟩

theorem inspectionPorts (groupId : String) {pairIds : List String} (hpairs : "" ∉ pairIds) :
    ∃ ports, Tells ids m (Lookup.inspectionPorts groupId pairIds) (.ok ports) ∧
      List.Forall₂ (m.ShowsPair groupId) (pairIds.filter (· ∈ m.keys .portPair)) ports := by
  induction pairIds with
  | nil => exact ⟨[], done [], .nil⟩
  | cons id rest ih =>
    obtain ⟨hid, hrest⟩ := not_or.1 (mt List.mem_cons.2 hpairs)
    obtain ⟨ports, htells, hshown⟩ := ih hrest
    by_cases hstored : id ∈ m.keys .portPair
    · obtain ⟨pair, hpair⟩ := h.reads hstored
      obtain ⟨port, hport, hown⟩ := inspectionPort ids hm hcalm h hpair groupId
      refine ⟨port :: ports, bind (get_reads hcalm (Ne.symm hid) hpair) ?_,
        Memory.forall₂_filter_keys hshown hstored hown⟩
      exact bind hport (bind htells (done _))
    · rw [List.filter_cons_of_neg (by simpa using hstored)]
      exact ⟨ports, bind (get_absent hcalm (Ne.symm hid) hstored) htells, hshown⟩

theorem groups (chainId : String) {groupIds : List String} (hgroups : "" ∉ groupIds) :
    ∃ elements, Tells ids m (Lookup.groups chainId groupIds) (.ok elements) ∧
      List.Forall₂ (m.ShowsGroup chainId) (groupIds.filter (· ∈ m.keys .portPairGroup))
        elements := by
  induction groupIds with
  | nil => exact ⟨[], done [], .nil⟩
  | cons id rest ih =>
    obtain ⟨hid, hrest⟩ := not_or.1 (mt List.mem_cons.2 hgroups)
    obtain ⟨elements, htells, hshown⟩ := ih hrest
    by_cases hstored : id ∈ m.keys .portPairGroup
    · obtain ⟨group, hgroup⟩ := h.reads hstored
      obtain ⟨ports, hports, hpairs⟩ :=
        inspectionPorts ids hm hcalm h id (h.listed id group hgroup)
      refine ⟨_, bind (get_reads hcalm (Ne.symm hid) hgroup) (bind hports (bind htells (done _))),
        Memory.forall₂_filter_keys hshown hstored ⟨rfl, rfl, group, hgroup, hpairs⟩⟩
    · rw [List.filter_cons_of_neg (by simpa using hstored)]
      exact ⟨elements, bind (get_absent hcalm (Ne.symm hid) hstored) htells, hshown⟩

theorem chainTree {chain : PortChain} {chainId : String} (hid : chain.id = some chainId)
    (hgroups : "" ∉ chain.portPairGroups) :
    ∃ tree, Tells ids m (Lookup.chainTree chain) (.ok tree) ∧ m.ShowsChain chain chainId tree := by
  obtain ⟨elements, htells, hshown⟩ := groups ids hm hcalm h chainId hgroups
  rw [Lookup.chainTree, hid]
  exact ⟨_, bind htells (done _), rfl, rfl, hshown⟩

end Tells

section

variable {α β : Type} {R : α → β → Prop} {f : β → Option α} {l : List α} {l' : List β}

theorem map_eq_of_forall₂ (h : List.Forall₂ R l l') (hf : ∀ a b, R a b → f b = some a) :
    l'.map f = l.map some := by
  induction h with
  | nil => rfl
  | cons hab _ ih => rw [List.map_cons, List.map_cons, hf _ _ hab, ih]

theorem exists_left_of_forall₂ (h : List.Forall₂ R l l') {b : β} (hb : b ∈ l') : ∃ a, R a b := by
  obtain ⟨a, -, hab⟩ := exists_of_forall₂ h.flip hb
  exact ⟨a, hab⟩

end

namespace Memory

theorem Intact.whole (h : m.Intact) {chain : PortChain} {chainId : String}
    {tree : ServiceFunctionChain} (hchain : m.Reads .portChain chainId chain)
    (hshown : m.ShowsChain chain chainId tree) : m.ShowsWhole chain tree := by
  have hall : chain.portPairGroups.filter (· ∈ m.keys .portPairGroup) = chain.portPairGroups :=
    List.filter_eq_self.2 fun id hid ↦ decide_eq_true (h.groups chainId chain hchain id hid)
  refine ⟨map_eq_of_forall₂ (hall ▸ hshown.groups) fun _ _ hg ↦ hg.elementId, ?_⟩
  intro element helement
  obtain ⟨groupId, hgroup⟩ := exists_left_of_forall₂ hshown.groups helement
  obtain ⟨group, hreads, hpairs⟩ := hgroup.pairs
  have hall : group.portPairs.filter (· ∈ m.keys .portPair) = group.portPairs :=
    List.filter_eq_self.2 fun id hid ↦ decide_eq_true (h.pairs groupId group hreads id hid)
  exact ⟨groupId, group, hgroup.elementId, hreads,
    map_eq_of_forall₂ (hall ▸ hpairs) fun _ _ hp ↦ hp.elementId⟩

end Memory

def ending : Protocol where
  Id kind id := kind = .port → id ≠ ""
  Res
    | .portPair, p => PortPair.Ended p
    | _, _ => True
  Sends := Call.Careful

theorem ending_serving (key : String) : ending.Serving key where
  get _ _ _ _ := trivial
  list _ _ := trivial
  own _ _ hport _ h := absurd h hport
  ingress _ hp id hid _ := fun he ↦ hp.1 (he ▸ hid)
  egress _ hp id hid _ := fun he ↦ hp.2 (he ▸ hid)
  pairs _ _ _ _ := Kind.noConfusion
  groups _ _ _ _ := Kind.noConfusion
  tag _ _ _ _ := Kind.noConfusion
  retag _ _ _ _ := trivial
  classifiers _ _ _ _ := Kind.noConfusion
  delete _ _ _ _ _ := trivial
  createPair ingress egress hingress hegress := by
    refine ⟨newPair ingress egress, rfl, fun he ↦ ?_, fun he ↦ ?_⟩
    · exact hingress rfl (Option.some.inj he)
    · exact hegress rfl (Option.some.inj he)
  createGroup _ _ := trivial
  createChain _ _ := trivial
  createClassifier _ := trivial
  setPairs _ _ _ _ := trivial
  setGroups _ _ _ _ := trivial
  setClassifiers _ _ _ _ := trivial

theorem Engine.Request.names_ending {r : Request} (h : r.missing? = none) : r.Names ending := by
  have hne {value : Option String} (hvalue : present value = true) :
      ∀ id ∈ value, Kind.port = .port → id ≠ "" := by
    rintro id rfl -
    exact ne_of_present hvalue
  have hchecks : ∀ check ∈ r.checks, check.2 = true := by
    simpa using List.find?_eq_none.1 (Option.map_eq_none_iff.1 h)
  cases r with
  | registerInspectionPort port =>
    obtain ⟨hingress, hegress⟩ := List.forall_mem_cons.1 hchecks
    exact ⟨fun _ _ ↦ Kind.noConfusion, hne hingress, hne (hegress _ List.mem_cons_self)⟩
  | installHook inspected chain =>
    exact ⟨hne (List.forall_mem_cons.1 hchecks).1, fun _ _ ↦ Kind.noConfusion⟩
  | _ => simp [Names, ending]

/-- Whatever the ports are tagged with and whatever is requested, pairs name their ends. -/
theorem history_ended (key : String) (ids : Nat → String) (hm : m.Keyed) (h : m.Ended)
    (events : List Event) : (history key ids m events).Ended := by
  suffices hkept : (history key ids m events).Keyed ∧ (history key ids m events).Ended from hkept.2
  induction events generalizing m with
  | nil => exact ⟨hm, h⟩
  | cons e rest ih =>
    obtain ⟨hkeyed, hended⟩ : (e.apply key ids m).Keyed ∧ (e.apply key ids m).Ended := by
      cases e with
      | failAfter f => exact ⟨hm, h⟩
      | request r =>
        cases hmissing : r.missing? with
        | some name =>
          rw [Event.apply, Request.run, Request.program_missing hmissing]
          exact ⟨hm, h⟩
        | none =>
          refine (Program.Conforms.run (I := fun n : Memory ↦ n.Keyed ∧ n.Ended) ?_ (fun _ hn ↦ hn)
            ⟨hm, h⟩ (Program.Conforms.request (ending_serving key)
              (Request.names_ending hmissing))).1
          rintro c n hc ⟨hkeyed, hended⟩
          have hnext : (Memory.reply ids c n).2.Ended := hended.reply hkeyed hc
          refine ⟨Memory.Known.hears ?_ hkeyed, hkeyed.reply c, hnext⟩
          rintro (_ | _) id value r hget hr
          all_goals first | trivial | exact hnext id value r hget hr
    exact ih hkeyed hended

namespace Service

variable {s : Service} {failures : List Failure}

theorem reads_iff {r : kind.Resource} :
    (s.memory failures).Reads kind id r ↔ s.find? kind id = some r := by
  rw [Memory.Reads, get_memory, Kind.get?_written]
  constructor
  · rintro ⟨value, hget, hr⟩
    obtain ⟨r', hfind, rfl⟩ := Option.map_eq_some_iff.1 hget
    cases (kind.decode_encode r').symm.trans hr
    exact hfind
  · exact fun hfind ↦ ⟨_, congrArg (Option.map kind.encode) hfind, kind.decode_encode r⟩

theorem mem_keys_memory : id ∈ (s.memory failures).keys kind ↔ id ∈ (s.get kind).map kind.key := by
  rw [Memory.keys, get_memory, Collection.keys, Kind.written, List.map_map]
  rfl

theorem mem_keys_of_stores (h : s.Stores kind id) : id ∈ (s.memory failures).keys kind := by
  obtain ⟨r, hr, hid⟩ := h
  exact mem_keys_memory.2 (List.mem_map.2 ⟨r, hr, Kind.key_eq hid⟩)

theorem legible (h : s.Legible) : (s.memory failures).Legible where
  readable kind id value hget := by
    rw [get_memory, Kind.get?_written] at hget
    obtain ⟨r, -, rfl⟩ := Option.map_eq_some_iff.1 hget
    exact ⟨r, kind.decode_encode r⟩
  ended _ value pair hget hr :=
    h.ended pair (List.mem_of_find?_eq_some (reads_iff.1 ⟨value, hget, hr⟩))
  listed _ group hgroup := h.listed group (List.mem_of_find?_eq_some (reads_iff.1 hgroup))

theorem intact (h : s.Linked) : (s.memory failures).Intact where
  groups _ chain hchain groupId hid := mem_keys_of_stores
    (h.groupsStored chain (List.mem_of_find?_eq_some (reads_iff.1 hchain)) groupId hid)
  pairs _ group hgroup pairId hid := mem_keys_of_stores
    (h.pairsStored group (List.mem_of_find?_eq_some (reads_iff.1 hgroup)) pairId hid)

theorem Sound.stored_ne (hs : s.Sound ids) (hne : ∀ n, ids n ≠ "") (hport : kind ≠ .port)
    (h : s.Stores kind id) : id ≠ "" := by
  obtain ⟨r, hr, hid⟩ := h
  obtain ⟨n, -, hn⟩ := hs.drawn kind hport r hr
  rw [← Kind.key_eq hid, hn]
  exact hne n

end Service

theorem history_legible (key : String) (hids : Function.Injective ids) (hne : ∀ n, ids n ≠ "")
    (project : String) (ports : List Port) (events : List Event) :
    ∃ s : Service, { history key ids (seeded ids project ports) events with failures := [] } =
        s.memory [] ∧ s.Valid ids ∧ s.Legible := by
  obtain ⟨s, hs, hbare, -⟩ := seeded_eq ids project ports
  obtain ⟨rest, t, ht, hsteps⟩ := history_steps key hbare.valid hids [] events
  have hvalid := hbare.valid.steps hids hsteps
  rw [hs, ht]
  refine ⟨t, rfl, hvalid, ?_, fun group hgroup hempty ↦ ?_⟩
  · have hnone : (s.memory []).Ended := (hbare.sound.ended_memory []).2 fun p hp ↦ by
      rw [hbare.portPairs] at hp
      cases hp
    exact (hvalid.sound.ended_memory rest).1
      (ht ▸ history_ended key ids (hbare.sound.keyed []) hnone events)
  · exact hvalid.sound.stored_ne hne (by decide)
      (hvalid.linked.pairsStored group hgroup "" hempty) rfl

/-- A tree shows of a chain what is stored, in its order and under its parents, and leaves out what
is not; what comes of seeded ports by requests alone is shown whole. -/
theorem trees_faithful (ids : Nat → String) :
    (∀ m, Memory.Stocked ids m → m.failures = [] → m.Legible →
      ∀ (chain : PortChain) (chainId : String), chain.id = some chainId →
        "" ∉ chain.portPairGroups →
        ∃ tree, (Lookup.chainTree chain).run (Memory.transport ids) m = (.ok tree, m) ∧
          m.ShowsChain chain chainId tree) ∧
      (Function.Injective ids → (∀ n, ids n ≠ "") →
        ∀ (key project : String) (ports : List Port) (events : List Event),
          let m := { history key ids (seeded ids project ports) events with failures := [] }
          ∀ chainId chain, m.Reads .portChain chainId chain →
            ∃ tree, (Lookup.chainTree chain).run (Memory.transport ids) m = (.ok tree, m) ∧
              m.ShowsChain chain chainId tree ∧ m.ShowsWhole chain tree) := by
  constructor
  · intro m hm hcalm h chain chainId hid hgroups
    exact Tells.chainTree ids hm.keyed hcalm h hid hgroups
  · intro hids hne key project ports events m chainId chain hchain
    obtain ⟨s, hs, hvalid, hlegible⟩ := history_legible key hids hne project ports events
    have hm : m = s.memory [] := hs
    rw [hm] at hchain ⊢
    have hstored := List.mem_of_find?_eq_some (Service.reads_iff.1 hchain)
    have hgroups : "" ∉ chain.portPairGroups := fun hempty ↦
      hvalid.sound.stored_ne hne (by decide)
        (hvalid.linked.groupsStored chain hstored "" hempty) rfl
    obtain ⟨tree, hrun, hshown⟩ := Tells.chainTree ids (hvalid.sound.keyed []) rfl
      (Service.legible hlegible) (hchain.idOf (hvalid.sound.keyed [])) hgroups
    exact ⟨tree, hrun, hshown, (Service.intact hvalid.linked).whole hchain hshown⟩

namespace Sample

def gaps : List Memory.Move :=
  [.seedPort { id := some "in" },
    .call (.create .portPair (Gateway.body .portPair
      { ingress := some "in", egress := some "gone" })),
    .call (.create .portPairGroup (Gateway.body .portPairGroup
      { portPairs := ["gone", numberedId 1] }))]

def gapped : Service where
  ports := [{ id := some "in" }]
  portPairs :=
    [{ id := some (numberedId 1), projectId := some "project", tenantId := some "project",
       ingress := some "in", egress := some "gone" }]
  portPairGroups :=
    [{ id := some (numberedId 2), projectId := some "project", tenantId := some "project",
       portPairs := ["gone", numberedId 1],
       parameters := some (Dict.empty.insert "lb_fields" (.arr [])) }]
  project := "project"
  drawn := 2

def registered : PortChain where
  id := some (numberedId 3)
  description := some description
  projectId := some "project"
  tenantId := some "project"
  chainId := some 1
  portPairGroups := [numberedId 2]
  parameters := some (Dict.empty.insert "correlation" (.str "mpls"))

end Sample

theorem sample_trees_faithful :
    ((Sample.gapped.memory []).Stocked numberedId ∧ (Sample.gapped.memory []).Legible ∧
      ∃ tree, (Lookup.chainTree { id := some "c", portPairGroups := ["gone", numberedId 2] }).run
          (Memory.transport numberedId) (Sample.gapped.memory []) =
            (.ok tree, Sample.gapped.memory []) ∧
        tree.portPairGroups.map (·.elementId) = [some (numberedId 2)]) ∧
    Function.Injective numberedId ∧ (∀ n, numberedId n ≠ "") ∧
      ∃ tree, (Lookup.chainTree Sample.registered).run (Memory.transport numberedId)
          { Sample.memory with failures := [] } =
            (.ok tree, { Sample.memory with failures := [] }) ∧
        tree.portPairGroups.map (·.elementId) = [some (numberedId 2)] := by
  have hmoved : Memory.moved numberedId Sample.gaps { project := "project" } =
      Sample.gapped.memory [] := by decide +kernel
  have hstocked : (Sample.gapped.memory []).Stocked numberedId :=
    hmoved ▸ Memory.stocked_moved numberedId "project" Sample.gaps
  have hlegible : (Sample.gapped.memory []).Legible :=
    Service.legible ⟨by simp [Sample.gapped, PortPair.Ended], by decide +kernel⟩
  have hne (n : Nat) : numberedId n ≠ "" := Text.ne_empty_of_blank (numberedId_not_blank n)
  have hreads : ({ Sample.memory with failures := [] } : Memory).Reads .portChain (numberedId 3)
      Sample.registered :=
    ⟨Sample.registered.encode, by decide +kernel, PortChain.decode_encode _⟩
  obtain ⟨hleft, hwhole⟩ := trees_faithful numberedId
  obtain ⟨tree, hrun, hshown⟩ := hleft _ hstocked rfl hlegible
    { id := some "c", portPairGroups := ["gone", numberedId 2] } "c" rfl (by decide +kernel)
  obtain ⟨whole, hrun', -, hall⟩ := hwhole numberedId_injective hne defaultKey "project"
    Sample.ports Sample.events (numberedId 3) Sample.registered hreads
  have hstored : ["gone", numberedId 2].filter
      (· ∈ (Sample.gapped.memory []).keys .portPairGroup) = [numberedId 2] := by decide +kernel
  exact ⟨⟨hstocked, hlegible, tree, hrun,
      map_eq_of_forall₂ (hstored ▸ hshown.groups) fun _ _ hg ↦ hg.elementId⟩,
    numberedId_injective, hne, whole, hrun', hall.groups⟩

end TrafficSteering
