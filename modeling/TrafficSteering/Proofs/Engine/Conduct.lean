import TrafficSteering.Proofs.Engine.Histories
import TrafficSteering.Proofs.Service.Protocols

namespace TrafficSteering

open Engine HookTag

variable {α β : Type} {key : String} {P : Protocol}

namespace Protocol

/-- Everything may be read, by the ids that have been read before. No port is asked for by the id
that it was read with. -/
structure Reading (P : Protocol) : Prop where
  get : ∀ kind id, P.Id kind id → id ≠ "" → P.Sends (.get kind id)
  list : ∀ kind query, P.Sends (.list kind query)
  own : ∀ kind r, kind ≠ .port → P.Res kind r → P.Id kind (kind.key r)
  ingress : ∀ p, P.Res .portPair p → ∀ id ∈ p.ingress, P.Id .port id
  egress : ∀ p, P.Res .portPair p → ∀ id ∈ p.egress, P.Id .port id
  pairs : ∀ g, P.Res .portPairGroup g → ∀ id ∈ g.portPairs, P.Id .portPair id
  groups : ∀ c, P.Res .portChain c → ∀ id ∈ c.portPairGroups, P.Id .portPairGroup id

structure Tagging (P : Protocol) (key : String) : Prop extends P.Reading where
  tag : ∀ p, P.Res .port p → ∀ hookId ∈ tag? key p, P.Id .flowClassifier hookId
  retag : ∀ p, P.Res .port p → ∀ hookId : Option String, (∀ id ∈ hookId, P.Id .flowClassifier id) →
    P.Sends (.update .port (Kind.port.key p) (Gateway.body .port
      { profile := some (HookTag.retag key (p.profile.getD Dict.empty) hookId) }))

/-- All the calls that the engine makes may be made. Ports are not deleted. -/
structure Serving (P : Protocol) (key : String) : Prop extends P.Tagging key where
  classifiers : ∀ c, P.Res .portChain c → ∀ id ∈ c.flowClassifiers, P.Id .flowClassifier id
  delete : ∀ kind id, kind ≠ .port → P.Id kind id → id ≠ "" → P.Sends (.delete kind id)
  createPair : ∀ ingress egress, P.Id .port ingress → P.Id .port egress →
    P.Sends (.create .portPair (Gateway.body .portPair (newPair ingress egress)))
  createGroup : ∀ pairId, P.Id .portPair pairId →
    P.Sends (.create .portPairGroup (Gateway.body .portPairGroup (newGroup pairId)))
  createChain : ∀ groupIds : List String, (∀ id ∈ groupIds, P.Id .portPairGroup id) →
    P.Sends (.create .portChain (Gateway.body .portChain
      { description := some description, portPairGroups := groupIds }))
  createClassifier : ∀ c, P.Sends (.create .flowClassifier (Gateway.body .flowClassifier c))
  setPairs : ∀ g, P.Res .portPairGroup g → ∀ pairIds : List String,
    (∀ id ∈ pairIds, P.Id .portPair id) →
      P.Sends (.update .portPairGroup (Kind.portPairGroup.key g)
        (Gateway.body .portPairGroup { g with portPairs := pairIds }))
  setGroups : ∀ c, P.Res .portChain c → ∀ groupIds : List String,
    (∀ id ∈ groupIds, P.Id .portPairGroup id) →
      P.Sends (.update .portChain (Kind.portChain.key c)
        (Gateway.body .portChain { c with portPairGroups := groupIds }))
  setClassifiers : ∀ c, P.Res .portChain c → ∀ hookIds : List String,
    (∀ id ∈ hookIds, P.Id .flowClassifier id) →
      P.Sends (.update .portChain (Kind.portChain.key c)
        (Gateway.body .portChain { c with flowClassifiers := hookIds }))

end Protocol

def Engine.Request.Names (P : Protocol) : Request → Prop
  | getInspectionPort port | removeInspectionPort port => ∀ id ∈ port.elementId, P.Id .portPair id
  | registerInspectionPort port =>
    (∀ id ∈ port.parentId, P.Id .portPairGroup id) ∧ (∀ id ∈ port.ingressId, P.Id .port id) ∧
      ∀ id ∈ port.egressId, P.Id .port id
  | installHook inspected chain =>
    (∀ id ∈ inspected.id, P.Id .port id) ∧ ∀ id ∈ chain.id, P.Id .portChain id
  | updateHook hook =>
    (∀ id ∈ hook.hookId, P.Id .flowClassifier id) ∧
      ∀ id ∈ hook.chain.elementId, P.Id .portChain id
  | removeHook hook | getHook hook => P.Id .flowClassifier hook
  | registerChain groups => ∀ g ∈ groups, ∀ id ∈ g.elementId, P.Id .portPairGroup id
  | updateChain chain groups =>
    (∀ id ∈ chain.id, P.Id .portChain id) ∧
      ∀ g ∈ groups, ∀ id ∈ g.elementId, P.Id .portPairGroup id
  | deleteChain chain | getChain chain => ∀ id ∈ chain.id, P.Id .portChain id

theorem Guard.groupIds_mem {groups : List NetworkElement} {ids : List String}
    (h : groupIds groups = .ok ids) {id : String} (hid : id ∈ ids) :
    ∃ g ∈ groups, g.elementId = some id := by
  induction groups generalizing ids with
  | nil =>
    cases h
    cases hid
  | cons g rest ih =>
    rw [groupIds, List.mapM_cons] at h
    cases hg : requireText g.elementId "Port Pair Group Id" with
    | error e =>
      rw [hg] at h
      cases h
    | ok own =>
      rw [hg] at h
      cases hrest : groupIds rest with
      | error e =>
        rw [groupIds] at hrest
        simp only [bind, Except.bind, hrest] at h
        cases h
      | ok others =>
        obtain rfl : own :: others = ids := by
          rw [groupIds] at hrest
          simp only [bind, Except.bind, hrest] at h
          exact Except.ok.inj h
        rcases List.mem_cons.1 hid with rfl | hid
        · exact ⟨g, List.mem_cons_self, (requireText_eq_ok_iff.1 hg).1⟩
        · obtain ⟨g', hg', he⟩ := ih hrest hid
          exact ⟨g', List.mem_cons_of_mem g hg', he⟩

namespace Program.Conforms

section

theorem requireText {value : Option String} {name : String} {Q : String → Prop}
    (h : ∀ text ∈ value, Q text) : Program.Conforms P Q (liftM (Guard.requireText value name)) :=
  lift fun _ htext ↦ h _ (Guard.requireText_eq_ok_iff.1 htext).1

theorem requireFound {found : Option α} {kind id : String} {Q : α → Prop}
    (h : ∀ a ∈ found, Q a) : Program.Conforms P Q (liftM (Guard.requireFound found kind id)) :=
  lift fun _ ha ↦ h _ (Guard.requireFound_eq_ok.1 ha)

variable (hP : P.Reading)

include hP

theorem read {kind : Kind} {id : String} (hid : P.Id kind id) :
    (Gateway.get kind id).Conforms P fun found ↦ ∀ r ∈ found, P.Res kind r ∧ kind.key r = id :=
  get (hP.get kind id hid)

theorem first (kind : Kind) (query : Query) (test : kind.Resource → Bool) :
    (Gateway.list kind query >>= fun l ↦ pure (l.find? test)).Conforms P
      fun found ↦ ∀ r ∈ found, P.Res kind r :=
  bind (list (hP.list kind query)) fun _ hl ↦ done fun r hr ↦ hl r (List.mem_of_find?_eq_some hr)

theorem pairOf {port : InspectionPort} (hport : ∀ id ∈ port.elementId, P.Id .portPair id) :
    (Lookup.pairOf port).Conforms P fun found ↦ ∀ p ∈ found, P.Res .portPair p := by
  have hends : Program.Conforms P (fun found ↦ ∀ p ∈ found, P.Res .portPair p)
      (if port.ingressId.isNone && port.egressId.isNone then pure none
       else Lookup.pairByPorts port.ingressId port.egressId) := by
    split
    · exact done fun p hp ↦ absurd hp (Option.not_mem_none p)
    · exact first hP .portPair [] _
  unfold Lookup.pairOf
  cases hid : port.elementId with
  | none => exact hends
  | some id =>
    dsimp only
    split
    · exact hends
    · refine bind (read hP (hport id hid)) fun found hfound ↦ ?_
      cases found with
      | none => exact hends
      | some pair =>
        refine done fun p hp ↦ ?_
        cases hp
        exact (hfound pair rfl).1

theorem requireGroups {groupIds : List String} (h : ∀ id ∈ groupIds, P.Id .portPairGroup id) :
    (Lookup.requireGroups groupIds).Conforms P fun _ ↦ True := by
  induction groupIds with
  | nil => exact done trivial
  | cons id rest ih =>
    obtain ⟨hid, hrest⟩ := List.forall_mem_cons.1 h
    refine bind (read hP hid) fun found _ ↦ ?_
    cases found with
    | none => exact fail
    | some _ => exact ih hrest

theorem validateGroups {groupIds : List String} (h : ∀ id ∈ groupIds, P.Id .portPairGroup id)
    (allowed : Option String) :
    (Lookup.validateGroups groupIds allowed).Conforms P fun _ ↦ True := by
  refine bind (requireGroups hP h) fun _ _ ↦ bind (list (hP.list .portChain [])) fun chains _ ↦ ?_
  split
  · exact fail
  · exact done trivial

theorem requireChain {chainId : String} (hid : P.Id .portChain chainId) :
    (Engine.requireChain chainId).Conforms P fun c ↦
      P.Res .portChain c ∧ Kind.portChain.key c = chainId :=
  bind (read hP hid) fun _ hfound ↦ requireFound hfound

theorem endpoint {portId : Option String} (h : ∀ id ∈ portId, P.Id .port id) (parentId : String) :
    (Lookup.endpoint portId parentId).Conforms P fun _ ↦ True := by
  cases portId with
  | none => exact done trivial
  | some id => exact bind (read hP (h id rfl)) fun _ _ ↦ done trivial

theorem inspectionPort {pair : PortPair} (hpair : P.Res .portPair pair) (groupId : Option String) :
    (Lookup.inspectionPort pair groupId).Conforms P fun _ ↦ True :=
  bind (endpoint hP (hP.ingress pair hpair) _) fun _ _ ↦
    bind (endpoint hP (hP.egress pair hpair) _) fun _ _ ↦ done trivial

theorem inspectionPorts (groupId : String) {pairIds : List String}
    (h : ∀ id ∈ pairIds, P.Id .portPair id) :
    (Lookup.inspectionPorts groupId pairIds).Conforms P fun _ ↦ True := by
  induction pairIds with
  | nil => exact done trivial
  | cons id rest ih =>
    obtain ⟨hid, hrest⟩ := List.forall_mem_cons.1 h
    refine bind (read hP hid) fun found hfound ↦ ?_
    cases found with
    | none => exact ih hrest
    | some pair =>
      exact bind (inspectionPort hP (hfound pair rfl).1 _) fun _ _ ↦ bind (ih hrest) fun _ _ ↦
        done trivial

theorem groups (chainId : String) {groupIds : List String}
    (h : ∀ id ∈ groupIds, P.Id .portPairGroup id) :
    (Lookup.groups chainId groupIds).Conforms P fun _ ↦ True := by
  induction groupIds with
  | nil => exact done trivial
  | cons id rest ih =>
    obtain ⟨hid, hrest⟩ := List.forall_mem_cons.1 h
    refine bind (read hP hid) fun found hfound ↦ ?_
    cases found with
    | none => exact ih hrest
    | some group =>
      have hpairs := hP.pairs group (hfound group rfl).1
      exact bind (inspectionPorts hP id hpairs) fun _ _ ↦ bind (ih hrest) fun _ _ ↦ done trivial

theorem chainTree {chain : PortChain} (hchain : P.Res .portChain chain) :
    (Lookup.chainTree chain).Conforms P fun _ ↦ True :=
  bind (groups hP _ (hP.groups chain hchain)) fun _ _ ↦ done trivial

theorem taggedPort (key : String) (classifier : FlowClassifier) :
    (HookTag.taggedPort key classifier).Conforms P fun found ↦ ∀ p ∈ found, P.Res .port p := by
  have hscan (hookId : String) : (HookTag.taggedWith key hookId).Conforms P
      fun found ↦ ∀ p ∈ found, P.Res .port p := first hP .port _ _
  unfold HookTag.taggedPort
  split
  · exact done fun p hp ↦ absurd hp (Option.not_mem_none p)
  · split
    · exact hscan _
    · refine bind (list (hP.list .port _)) fun ports hports ↦ ?_
      split
      · rename_i p hp
        refine done fun q hq ↦ ?_
        cases hq
        exact hports p (List.mem_of_find?_eq_some hp)
      · exact hscan _

end

theorem build (tree : ServiceFunctionChain) (port : Port) (fallback : List String) :
    (HookClassifier.build tree port fallback).Conforms P fun _ ↦ True := by
  unfold HookClassifier.build
  split
  · exact fun _ ↦ done trivial
  · exact fail

theorem requireSome (items : List α) (name : String) :
    Program.Conforms P (fun _ ↦ True) (liftM (Guard.requireSome items name)) :=
  lift fun _ _ ↦ trivial

theorem groupIds {groups : List NetworkElement}
    (h : ∀ g ∈ groups, ∀ id ∈ g.elementId, P.Id .portPairGroup id) :
    Program.Conforms P (fun ids ↦ ∀ id ∈ ids, P.Id .portPairGroup id)
      (liftM (Guard.groupIds groups)) := by
  refine lift fun ids hids id hid ↦ ?_
  obtain ⟨g, hg, hgid⟩ := Guard.groupIds_mem hids hid
  exact h g hg id hgid

section

variable (hP : P.Tagging key)

include hP

theorem setTag {port : Port} (hport : P.Res .port port) {hookId : Option String}
    (hhook : ∀ id ∈ hookId, P.Id .flowClassifier id) :
    (HookTag.set key port hookId).Conforms P fun _ ↦ True :=
  mono (update fun _ ↦ hP.retag port hport hookId hhook) fun _ _ ↦ trivial

theorem untag {port : Port} (hport : P.Res .port port) :
    (HookTag.set key port none).Conforms P fun _ ↦ True :=
  setTag hP hport fun id hid ↦ absurd hid (Option.not_mem_none id)

theorem liveHook {port : Port} (hport : P.Res .port port) :
    (HookTag.liveHook key port).Conforms P fun _ ↦ True := by
  unfold HookTag.liveHook
  split
  · exact done trivial
  · rename_i hookId htag
    refine bind (read hP.toReading (hP.tag port hport hookId htag)) fun found _ ↦ ?_
    cases found with
    | some _ => exact done trivial
    | none => exact bind (untag hP hport) fun _ _ ↦ done trivial

theorem clearVanished (hookId : String) :
    (HookTag.clearVanished key hookId).Conforms P fun _ ↦ True := by
  refine bind (first hP.toReading .port _ _) fun found hfound ↦ ?_
  cases found with
  | none => exact done trivial
  | some port => exact bind (untag hP (hfound port rfl)) fun _ _ ↦ done trivial

end

section

variable (hP : P.Serving key)

include hP

theorem removal {kind : Kind} (hkind : kind ≠ .port) {id : String} (hid : P.Id kind id) :
    (Gateway.delete kind id).Conforms P fun _ ↦ True := delete (hP.delete kind id hkind hid)

theorem setClassifiers {c : PortChain} (hc : P.Res .portChain c) {hookIds : List String}
    (h : ∀ id ∈ hookIds, P.Id .flowClassifier id) :
    (Engine.setClassifiers c hookIds).Conforms P fun _ ↦ True :=
  mono (update fun _ ↦ hP.setClassifiers c hc hookIds h) fun _ _ ↦ trivial

theorem attachClassifier {c : PortChain} (hc : P.Res .portChain c) {hookId : String}
    (hid : P.Id .flowClassifier hookId) :
    (Engine.attachClassifier c hookId).Conforms P fun _ ↦ True := by
  refine setClassifiers hP hc fun id hmem ↦ ?_
  split at hmem
  · exact hP.classifiers c hc id hmem
  · rcases List.mem_append.1 hmem with hmem | hmem
    · exact hP.classifiers c hc id hmem
    · exact List.mem_singleton.1 hmem ▸ hid

theorem detachClassifier {c : PortChain} (hc : P.Res .portChain c) (hookId : String) :
    (Engine.detachClassifier c hookId).Conforms P fun _ ↦ True :=
  setClassifiers hP hc fun id hmem ↦ hP.classifiers c hc id (List.mem_filter.1 hmem).1

theorem detachFromChain (hookId : String) :
    (Engine.detachFromChain hookId).Conforms P fun _ ↦ True := by
  refine bind (first hP.toReading .portChain [] _) fun found hfound ↦ ?_
  cases found with
  | none => exact done trivial
  | some c => exact bind (detachClassifier hP (hfound c rfl) hookId) fun _ _ ↦ done trivial

theorem getInspectionPort {port : InspectionPort}
    (hport : ∀ id ∈ port.elementId, P.Id .portPair id) :
    (Engine.getInspectionPort port).Conforms P fun _ ↦ True := by
  refine bind (pairOf hP.toReading hport) fun found hfound ↦ ?_
  cases found with
  | none => exact done trivial
  | some pair =>
    refine bind (first hP.toReading .portPairGroup [] _) fun group _ ↦ ?_
    exact bind (inspectionPort hP.toReading (hfound pair rfl) _) fun _ _ ↦ done trivial

theorem requestedGroup {port : InspectionPort}
    (hparent : ∀ id ∈ port.parentId, P.Id .portPairGroup id) :
    (Engine.requestedGroup port).Conforms P fun found ↦ ∀ g ∈ found, P.Res .portPairGroup g := by
  unfold Engine.requestedGroup
  split
  · exact done fun g hg ↦ absurd hg (Option.not_mem_none g)
  · rename_i id hid
    split
    · exact done fun g hg ↦ absurd hg (Option.not_mem_none g)
    · refine bind (read hP.toReading (hparent id hid)) fun found hfound ↦ ?_
      refine bind (requireFound fun g hg ↦ (hfound g hg).1) fun group hgroup ↦ done ?_
      rintro _ ⟨⟩
      exact hgroup

theorem findOrCreatePair {ingress egress : String} (hingress : P.Id .port ingress)
    (hegress : P.Id .port egress) :
    (Engine.findOrCreatePair ingress egress).Conforms P fun found ↦ P.Res .portPair found.1 := by
  refine bind (first hP.toReading .portPair [] _) fun found hfound ↦ ?_
  cases found with
  | some pair => exact done (hfound pair rfl)
  | none => exact bind (create (hP.createPair ingress egress hingress hegress)) fun _ hr ↦ done hr

theorem placePair {group : Option PortPairGroup} (hgroup : ∀ g ∈ group, P.Res .portPairGroup g)
    {pairId : String} (hid : P.Id .portPair pairId) :
    (Engine.placePair group pairId).Conforms P fun _ ↦ True := by
  cases group with
  | none => exact mono (create (hP.createGroup pairId hid)) fun _ _ ↦ trivial
  | some g =>
    have hg := hgroup g rfl
    refine mono (update fun _ ↦ hP.setPairs g hg _ fun id hmem ↦ ?_) fun _ _ ↦ trivial
    rcases List.mem_append.1 hmem with hmem | hmem
    · exact hP.pairs g hg id hmem
    · exact List.mem_singleton.1 hmem ▸ hid

theorem registerInspectionPort {port : InspectionPort}
    (hparent : ∀ id ∈ port.parentId, P.Id .portPairGroup id)
    (hingress : ∀ id ∈ port.ingressId, P.Id .port id)
    (hegress : ∀ id ∈ port.egressId, P.Id .port id) :
    (Engine.registerInspectionPort port).Conforms P fun _ ↦ True := by
  refine bind (requireText hingress) fun ingress hingress ↦ ?_
  refine bind (requireText hegress) fun egress hegress ↦ ?_
  refine bind (requestedGroup hP hparent) fun requested hrequested ↦ ?_
  refine bind (findOrCreatePair hP hingress hegress) fun found hfound ↦ ?_
  refine bind (first hP.toReading .portPairGroup [] _) fun group _ ↦ ?_
  cases group with
  | some group => exact done trivial
  | none =>
    have hid : P.Id .portPair (found.1.id.getD "") := hP.own .portPair found.1 (by decide) hfound
    exact bind (mapError (placePair hP hrequested hid) _) fun _ _ ↦ done trivial

theorem leaveGroup {group : PortPairGroup} (hgroup : P.Res .portPairGroup group)
    (pairId : String) : (Engine.leaveGroup group pairId).Conforms P fun _ ↦ True := by
  unfold Engine.leaveGroup
  dsimp only
  split
  · exact removal hP (by decide) (hP.own .portPairGroup group (by decide) hgroup)
  · refine bind (update fun _ ↦ hP.setPairs group hgroup _ fun id hmem ↦ ?_) fun _ _ ↦ done trivial
    exact hP.pairs group hgroup id (List.mem_filter.1 hmem).1

theorem removeInspectionPort {port : InspectionPort}
    (hport : ∀ id ∈ port.elementId, P.Id .portPair id) :
    (Engine.removeInspectionPort port).Conforms P fun _ ↦ True := by
  refine bind (pairOf hP.toReading hport) fun found hfound ↦ ?_
  cases found with
  | none => exact done trivial
  | some pair =>
    have hid : P.Id .portPair (pair.id.getD "") :=
      hP.own .portPair pair (by decide) (hfound pair rfl)
    refine bind (first hP.toReading .portPairGroup [] _) fun group hgroup ↦ ?_
    cases group with
    | none => exact mapError (removal hP (by decide) hid) _
    | some group =>
      refine bind (leaveGroup hP (hgroup group rfl) _) fun _ _ ↦ ?_
      exact mapError (removal hP (by decide) hid) _

theorem registerChain {groups : List NetworkElement}
    (hgroups : ∀ g ∈ groups, ∀ id ∈ g.elementId, P.Id .portPairGroup id) :
    (Engine.registerChain groups).Conforms P fun _ ↦ True := by
  refine bind (requireSome groups _) fun _ _ ↦ bind (groupIds hgroups) fun ids hids ↦ ?_
  refine bind (validateGroups hP.toReading hids none) fun _ _ ↦ ?_
  exact bind (create (hP.createChain ids hids)) fun _ _ ↦ done trivial

theorem updateChain {chain : Element} (hchain : ∀ id ∈ chain.id, P.Id .portChain id)
    {groups : List NetworkElement}
    (hgroups : ∀ g ∈ groups, ∀ id ∈ g.elementId, P.Id .portPairGroup id) :
    (Engine.updateChain chain groups).Conforms P fun _ ↦ True := by
  refine bind (requireText hchain) fun chainId hchainId ↦ ?_
  refine bind (requireSome groups _) fun _ _ ↦ bind (groupIds hgroups) fun ids hids ↦ ?_
  refine bind (requireChain hP.toReading hchainId) fun stored hstored ↦ ?_
  obtain ⟨hstored, rfl⟩ := hstored
  refine bind (validateGroups hP.toReading hids _) fun _ _ ↦ ?_
  -- the chain is sent back twice, the second time as it was answered to the first
  refine bind (update fun _ ↦ hP.setGroups stored hstored [] fun id hid ↦ by cases hid)
    fun cleared hcleared ↦ ?_
  obtain ⟨hcleared, hkey⟩ := hcleared
  refine bind (mapError (update fun _ ↦ ?_) _) fun _ _ ↦ done trivial
  rw [← hkey]
  exact hP.setGroups cleared hcleared ids hids

theorem deleteChain {chain : Element} (hchain : ∀ id ∈ chain.id, P.Id .portChain id) :
    (Engine.deleteChain chain).Conforms P fun _ ↦ True := by
  refine bind (requireText hchain) fun chainId hchainId ↦ ?_
  refine bind (requireChain hP.toReading hchainId) fun _ _ ↦ ?_
  refine bind (deleteRaw (hP.delete .portChain chainId (by decide) hchainId)) fun response _ ↦ ?_
  split
  · exact done trivial
  · exact fail

theorem getChain {chain : Element} (hchain : ∀ id ∈ chain.id, P.Id .portChain id) :
    (Engine.getChain chain).Conforms P fun _ ↦ True := by
  refine bind (requireText hchain) fun chainId hchainId ↦ ?_
  refine bind (requireChain hP.toReading hchainId) fun stored hstored ↦ ?_
  exact chainTree hP.toReading hstored.1

theorem installHook {inspected chain : Element} (hinspected : ∀ id ∈ inspected.id, P.Id .port id)
    (hchain : ∀ id ∈ chain.id, P.Id .portChain id) :
    (Engine.installHook key inspected chain).Conforms P fun _ ↦ True := by
  refine bind (requireText hinspected) fun inspectedId hinspectedId ↦ ?_
  refine bind (requireText hchain) fun chainId hchainId ↦ ?_
  refine bind (requireChain hP.toReading hchainId) fun stored hstored ↦ ?_
  refine bind (read hP.toReading hinspectedId) fun found hfound ↦ ?_
  refine bind (requireFound fun p hp ↦ (hfound p hp).1) fun port hport ↦ ?_
  refine bind (liveHook hP.toTagging hport) fun live _ ↦ ?_
  cases live with
  | some _ => exact fail
  | none =>
    refine bind (chainTree hP.toReading hstored.1) fun tree _ ↦ bind (build tree port _) ?_
    intro classifier _
    refine bind (create (hP.createClassifier classifier)) fun created hcreated ↦ ?_
    have hid : P.Id .flowClassifier (created.id.getD "") :=
      hP.own .flowClassifier created (by decide) hcreated
    refine bind (mapError (setTag hP.toTagging hport fun id hmem ↦ ?_) _) fun _ _ ↦ ?_
    · exact Option.mem_some.1 hmem ▸ hid
    · exact bind (mapError (attachClassifier hP hstored.1 hid) _) fun _ _ ↦ done trivial

theorem updateHook {hook : InspectionHook}
    (hhook : ∀ id ∈ hook.hookId, P.Id .flowClassifier id)
    (hchain : ∀ id ∈ hook.chain.elementId, P.Id .portChain id) :
    (Engine.updateHook key hook).Conforms P fun _ ↦ True := by
  refine bind (requireText hhook) fun hookId hhookId ↦ ?_
  refine bind (requireText (Q := fun _ ↦ True) fun _ _ ↦ trivial) fun inspectedId _ ↦ ?_
  refine bind (requireText hchain) fun chainId hchainId ↦ ?_
  refine bind (read hP.toReading hhookId) fun found hfound ↦ ?_
  refine bind (requireFound hfound) fun classifier _ ↦ ?_
  refine bind (taggedPort hP.toReading key classifier) fun port _ ↦ ?_
  dsimp only
  split
  · exact fail
  · refine bind (requireChain hP.toReading hchainId) fun chain hchain ↦ ?_
    refine bind (first hP.toReading .portChain [] _) fun old hold ↦ ?_
    cases old with
    | none => exact bind (attachClassifier hP hchain.1 hhookId) fun _ _ ↦ done trivial
    | some old =>
      dsimp only
      split
      · exact done trivial
      · refine bind (detachClassifier hP (hold old rfl) hookId) fun _ _ ↦ ?_
        exact bind (mapError (attachClassifier hP hchain.1 hhookId) _) fun _ _ ↦ done trivial

theorem removeHook {hook : String} (hhook : P.Id .flowClassifier hook) :
    (Engine.removeHook key hook).Conforms P fun _ ↦ True := by
  refine bind (requireText (Q := P.Id .flowClassifier) fun id hid ↦ ?_) fun hookId hhookId ↦ ?_
  · exact Option.mem_some.1 hid ▸ hhook
  refine bind (read hP.toReading hhookId) fun found _ ↦ ?_
  cases found with
  | none => exact bind (clearVanished hP.toTagging hookId) fun _ _ ↦ done trivial
  | some classifier =>
    refine bind (taggedPort hP.toReading key classifier) fun tagged htagged ↦ ?_
    refine bind (detachFromChain hP hookId) fun detached _ ↦ ?_
    refine bind (mapError (removal hP (by decide) hhookId) _) fun _ _ ↦ ?_
    cases tagged with
    | none => exact done trivial
    | some port =>
      exact bind (mapError (untag hP.toTagging (htagged port rfl)) _) fun _ _ ↦ done trivial

theorem getHook {hook : String} (hhook : P.Id .flowClassifier hook) :
    (Engine.getHook key hook).Conforms P fun _ ↦ True := by
  refine bind (requireText (Q := P.Id .flowClassifier) fun id hid ↦ ?_) fun hookId hhookId ↦ ?_
  · exact Option.mem_some.1 hid ▸ hhook
  refine bind (read hP.toReading hhookId) fun found _ ↦ ?_
  cases found with
  | none => exact bind (clearVanished hP.toTagging hookId) fun _ _ ↦ done trivial
  | some classifier =>
    refine bind (taggedPort hP.toReading key classifier) fun tagged _ ↦ ?_
    -- the chain is looked for in the same way, whether a port is tagged with the hook or not
    cases tagged with
    | none | some _ =>
      refine bind (Q := fun _ ↦ True) (done trivial) fun _ _ ↦ ?_
      refine bind (first hP.toReading .portChain [] _) fun chain hchain ↦ ?_
      cases chain with
      | none => exact done trivial
      | some chain =>
        exact bind (chainTree hP.toReading (hchain chain rfl)) fun _ _ ↦ done trivial

/-- Whatever is asked of it, the engine keeps to the protocol. -/
theorem request {r : Request} (hr : r.Names P) :
    (r.program key).Conforms P fun _ ↦ True := by
  cases r with
  | getInspectionPort port => exact getInspectionPort hP hr
  | registerInspectionPort port => exact registerInspectionPort hP hr.1 hr.2.1 hr.2.2
  | removeInspectionPort port => exact removeInspectionPort hP hr
  | installHook inspected chain => exact installHook hP hr.1 hr.2
  | updateHook hook => exact updateHook hP hr.1 hr.2
  | removeHook hook => exact removeHook hP hr
  | getHook hook => exact getHook hP hr
  | registerChain groups => exact registerChain hP hr
  | updateChain chain groups => exact updateChain hP hr.1 hr.2
  | deleteChain chain => exact deleteChain hP hr
  | getChain chain => exact getChain hP hr

end

end Program.Conforms

end TrafficSteering
