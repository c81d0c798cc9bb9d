import TrafficSteering.Proofs.Engine.PairStages

namespace TrafficSteering

open Engine HookTag

variable {key : String} {ids : Nat → String} {s u w : Service} {v : Inventory}
  {port : InspectionPort} {pair p : PortPair} {group g : PortPairGroup} {ingress egress : String}

namespace Inventory.Linked

theorem eq_of_ends (h : v.Linked) (hp : p ∈ v.portPairs) (hpair : pair ∈ v.portPairs)
    (hends : (p.ingress, p.egress) = (pair.ingress, pair.egress)) : p = pair :=
  List.inj_on_of_nodup_map h.ends hp hpair hends

theorem pairByPorts (h : v.Linked) (hpair : pair ∈ v.portPairs) :
    v.pairByPorts pair.ingress pair.egress = some pair := by
  cases hfind : v.pairByPorts pair.ingress pair.egress with
  | none => exact absurd rfl (Inventory.pairByPorts_eq_none hfind pair hpair)
  | some p =>
    have hends := List.find?_some hfind
    rw [h.eq_of_ends (List.mem_of_find?_eq_some hfind) hpair (by simpa using hends)]

end Inventory.Linked

/-- What becomes of the pairs when one with these ends is asked for: it is there, or it is created
and comes last. -/
inductive PairGiven (m : Memory) (ingress egress : String) (before : List PortPair) :
    PortPair → List PortPair → Prop
  | found {pair : PortPair} (hmem : pair ∈ before) (hingress : pair.ingress = some ingress)
      (hegress : pair.egress = some egress) : PairGiven m ingress egress before pair before
  | created {id : String} {pair : PortPair}
      (hnone : ∀ p ∈ before, (p.ingress, p.egress) ≠ (some ingress, some egress))
      (hfresh : ∀ p ∈ before, p.id ≠ some id)
      (hpair : pair = Kind.portPair.created id m.project m.nextChain (newPair ingress egress)) :
      PairGiven m ingress egress before pair (before ++ [pair])

/-- What becomes of the groups when a pair has to be in one: it is in one already, or it joins the
group that is requested as the last, or it is alone in a new one. -/
inductive GroupGiven (m : Memory) (pairId : String) (requested : Option String)
    (before : List PortPairGroup) : PortPairGroup → List PortPairGroup → Prop
  | grouped {group : PortPairGroup} (hmem : group ∈ before) (hlisted : pairId ∈ group.portPairs) :
      GroupGiven m pairId requested before group before
  | joined {l₁ l₂ : List PortPairGroup} {group : PortPairGroup} {id : String}
      (hfree : ∀ g ∈ before, pairId ∉ g.portPairs) (hsplit : before = l₁ ++ group :: l₂)
      (hrequested : requested = some id) (hne : id ≠ "") (hid : group.id = some id) :
      GroupGiven m pairId requested before { group with portPairs := group.portPairs ++ [pairId] }
        (l₁ ++ { group with portPairs := group.portPairs ++ [pairId] } :: l₂)
  | alone {id : String} {group : PortPairGroup} (hfree : ∀ g ∈ before, pairId ∉ g.portPairs)
      (hrequested : ∀ name ∈ requested, name = "") (hfresh : ∀ g ∈ before, g.id ≠ some id)
      (hgroup : group =
        Kind.portPairGroup.created id m.project m.nextChain (newGroup pairId)) :
      GroupGiven m pairId requested before group (before ++ [group])

theorem PairGiven.mem {m : Memory} {before after : List PortPair}
    (h : PairGiven m ingress egress before pair after) :
    pair ∈ after ∧ pair.ingress = some ingress ∧ pair.egress = some egress := by
  cases h with
  | found hmem hingress hegress => exact ⟨hmem, hingress, hegress⟩
  | created hnone hfresh hpair =>
    refine ⟨List.mem_append_right _ (List.mem_singleton_self _), ?_, ?_⟩ <;> rw [hpair] <;> rfl

theorem GroupGiven.mem {m : Memory} {pairId : String} {requested : Option String}
    {before after : List PortPairGroup} (h : GroupGiven m pairId requested before group after) :
    group ∈ after ∧ pairId ∈ group.portPairs := by
  cases h with
  | grouped hmem hlisted => exact ⟨hmem, hlisted⟩
  | joined => exact ⟨by simp, by simp⟩
  | alone hfree hrequested hfresh hgroup =>
    refine ⟨by simp, ?_⟩
    rw [hgroup]
    exact List.mem_singleton_self pairId

theorem GroupGiven.kept {m : Memory} {pairId : String} {requested : Option String}
    {before after : List PortPairGroup} (h : GroupGiven m pairId requested before group after)
    (hg : g ∈ before) : ∃ g' ∈ after, g'.id = g.id := by
  cases h with
  | grouped => exact ⟨g, hg, rfl⟩
  | joined hfree hsplit =>
    rw [hsplit, List.mem_append, List.mem_cons] at hg
    obtain hg | rfl | hg := hg
    · exact ⟨g, by simp [hg], rfl⟩
    · exact ⟨_, List.mem_append_right _ List.mem_cons_self, rfl⟩
    · exact ⟨g, by simp [hg], rfl⟩
  | alone => exact ⟨g, List.mem_append_left _ hg, rfl⟩

inductive Requested (groups : List PortPairGroup) (port : InspectionPort) :
    Option PortPairGroup → Prop
  | unnamed (h : ∀ id ∈ port.parentId, id = "") : Requested groups port none
  | named {g : PortPairGroup} {id : String} (hmem : g ∈ groups)
      (hparent : port.parentId = some id) (hne : id ≠ "") (hid : g.id = some id) :
      Requested groups port (some g)

theorem Service.Sound.requestedGroup_gone (hs : s.Sound ids) {id : String}
    (hparent : port.parentId = some id) (hne : id ≠ "") (hgone : ¬ s.Stores .portPairGroup id) :
    s.requestedGroup port = .error (.notFound "Port Pair Group" id) := by
  simp only [Inventory.requestedGroup, hparent, hne, if_false, hs.find?_eq_none_iff.2 hgone]

theorem Service.Sound.requestedGroup_stored (hs : s.Sound ids)
    (hstored : ∀ id ∈ port.parentId, id ≠ "" → s.Stores .portPairGroup id) :
    ∃ requested, s.requestedGroup port = .ok requested ∧
      Requested s.portPairGroups port requested := by
  rw [Inventory.requestedGroup]
  cases hparent : port.parentId with
  | none => exact ⟨none, rfl, .unnamed (by simp [hparent])⟩
  | some id =>
    by_cases hne : id = ""
    · exact ⟨none, if_pos hne, .unnamed (by simpa [hparent] using hne)⟩
    · obtain ⟨g, hg, hid⟩ := hstored id hparent hne
      have hfind : s.find? .portPairGroup id = some g := by
        rw [← Kind.key_eq hid]
        exact hs.find?_of_mem .portPairGroup hg
      exact ⟨some g, by simp only [hne, if_false, hfind], .named hg hparent hne hid⟩

theorem exists_pairGiven (hs : s.Sound ids) (hids : Function.Injective ids)
    (ingress egress : String) :
    ∃ pair created l n, Atomic ids .never (findOrCreatePair ingress egress) s (.ok (pair, created))
        { s with portPairs := l, drawn := n } ∧
      ({ s with portPairs := l, drawn := n } : Service).Sound ids ∧
      PairGiven (s.memory []) ingress egress s.portPairs pair l := by
  have hpair : Atomic ids .never (findOrCreatePair ingress egress) s _ _ :=
    .findOrCreatePair hs hids ingress egress
  cases hfind : s.pairByPorts (some ingress) (some egress) with
  | some pair =>
    rw [hfind] at hpair
    have hends := List.find?_some hfind
    obtain ⟨hingress, hegress⟩ : pair.ingress = some ingress ∧ pair.egress = some egress := by
      simpa using hends
    exact ⟨pair, false, s.portPairs, s.drawn, hpair, hs,
      .found (List.mem_of_find?_eq_some hfind) hingress hegress⟩
  | none =>
    rw [hfind] at hpair
    refine ⟨_, true, _, s.drawn + 1, hpair, hs.add hids .portPair (by decide) _,
      .created (Inventory.pairByPorts_eq_none hfind) (fun p hp hid ↦ ?_) rfl⟩
    exact hs.fresh hids .portPair (by decide) p hp (Kind.key_eq hid)

theorem exists_placed (hs : s.Sound ids) (hids : Function.Injective ids) {pairId : String}
    (hfree : s.Free pairId .portPair) {m : Memory} (hproject : m.project = s.project)
    (hchain : m.nextChain = s.nextChain) {requested : Option PortPairGroup}
    (hrequested : Requested s.portPairGroups port requested) :
    ∃ group l n, Atomic ids .never (placePair requested pairId) s (.ok group)
        { s with portPairGroups := l, drawn := n } ∧
      GroupGiven m pairId port.parentId s.portPairGroups group l := by
  cases hrequested with
  | unnamed hnone =>
    have hcreate : Atomic ids .never (placePair none pairId) s _ _ :=
      .create hs hids .portPairGroup (by decide) (newGroup pairId)
    have hfresh : ∀ g ∈ s.portPairGroups, g.id ≠ some (ids (s.drawn + 1)) := fun g hg hid ↦
      hs.fresh hids .portPairGroup (by decide) g hg (congrArg (Option.getD · "") hid)
    refine ⟨_, _, s.drawn + 1, hcreate, .alone hfree hnone hfresh ?_⟩
    rw [hproject, hchain]
    rfl
  | @named g id hg hparent hne hid =>
    obtain ⟨l₁, l₂, hsplit⟩ := List.append_of_mem hg
    have hkey : Kind.portPairGroup.key g = id := congrArg (Option.getD · "") hid
    exact ⟨_, _, s.drawn, .setPairs hs hsplit (hkey ▸ hne) (g.portPairs ++ [pairId]),
      .joined hfree hsplit hparent hne hid⟩

theorem exists_groupGiven (hs : s.Sound ids) (hids : Function.Injective ids) (pairId : String)
    {m : Memory} (hproject : m.project = s.project) (hchain : m.nextChain = s.nextChain)
    {requested : Option PortPairGroup} (hrequested : Requested s.portPairGroups port requested) :
    ∃ group l n, GroupGiven m pairId port.parentId s.portPairGroups group l ∧
      (s.groupOfPair pairId = some group ∧ { s with portPairGroups := l, drawn := n } = s ∨
        s.groupOfPair pairId = none ∧ Atomic ids .never (placePair requested pairId) s (.ok group)
          { s with portPairGroups := l, drawn := n }) := by
  cases hscan : s.groupOfPair pairId with
  | some group =>
    obtain ⟨hgroup, hlisted⟩ := Inventory.groupOfPair_eq_some hscan
    exact ⟨group, s.portPairGroups, s.drawn, .grouped hgroup hlisted, .inl ⟨rfl, rfl⟩⟩
  | none =>
    have hfree := Inventory.groupOfPair_eq_none.1 hscan
    obtain ⟨group, l, n, hplace, hgroup⟩ :=
      exists_placed hs hids hfree hproject hchain hrequested
    exact ⟨group, l, n, hgroup, .inr ⟨rfl, hplace⟩⟩

theorem calm_registerInspectionPort {requested : Option PortPairGroup} {created : Bool}
    (hingress : Guard.requireText port.ingressId "Ingress port" = .ok ingress)
    (hegress : Guard.requireText port.egressId "Egress port" = .ok egress)
    (hrequested : s.requestedGroup port = .ok requested)
    (hpair : Atomic ids .never (findOrCreatePair ingress egress) s (.ok (pair, created)) u)
    (hgroup : u.groupOfPair (Kind.portPair.key pair) = some group ∧ w = u ∨
      u.groupOfPair (Kind.portPair.key pair) = none ∧
        Atomic ids .never (placePair requested (Kind.portPair.key pair)) u (.ok group) w) :
    calm ids (registerInspectionPort port) s =
      (.ok { elementId := some (Kind.portPair.key pair), parentId := group.id,
             ingressPort := port.ingressPort, egressPort := port.egressPort }, w.memory []) := by
  have hparent : Atomic ids .never (requestedGroup port) s (.ok requested) s :=
    hrequested ▸ .requestedGroup s port
  have hscan : Atomic ids .never (Lookup.groupOfPair (Kind.portPair.key pair)) u _ u :=
    .groupOfPair u _
  rw [registerInspectionPort, hingress, hegress]
  refine (calm_step (.lift _)).trans ((calm_step (.lift _)).trans ?_)
  refine (calm_step hparent).trans ((calm_step hpair).trans ((calm_step hscan).trans ?_))
  obtain ⟨hgroup, rfl⟩ | ⟨hgroup, hplace⟩ := hgroup
  · rw [hgroup]
    rfl
  · rw [hgroup]
    exact calm_mapError_bind.2 (calm_step hplace)

/-- The registration of an inspection port has led from `v` to `w` and has answered `ip`. There is
one pair with its ends, and one group of the pair; all else is as it was. -/
structure Registered (m : Memory) (port : InspectionPort) (ingress egress : String)
    (v w : Inventory) (pair : PortPair) (group : PortPairGroup) (ip : InspectionPort) : Prop where
  pairs : PairGiven m ingress egress v.portPairs pair w.portPairs
  only : ∀ p ∈ w.portPairs, (p.ingress, p.egress) = (some ingress, some egress) → p = pair
  groups : GroupGiven m (Kind.portPair.key pair) port.parentId v.portPairGroups group
    w.portPairGroups
  pairNamed : pair.id = some (Kind.portPair.key pair)
  groupNamed : group.id = some (Kind.portPairGroup.key group)
  answer : ip = { elementId := pair.id, parentId := group.id, ingressPort := port.ingressPort,
                  egressPort := port.egressPort }
  ports : w.ports = v.ports
  portChains : w.portChains = v.portChains
  flowClassifiers : w.flowClassifiers = v.flowClassifiers

theorem exists_registered (hv : s.Valid ids) (hids : Function.Injective ids)
    (hingress : Guard.requireText port.ingressId "Ingress port" = .ok ingress)
    (hegress : Guard.requireText port.egressId "Egress port" = .ok egress)
    (hstored : ∀ id ∈ port.parentId, id ≠ "" → s.Stores .portPairGroup id) :
    ∃ ip pair group, ∃ w : Service,
      calm ids (registerInspectionPort port) s = (.ok ip, w.memory []) ∧
      w.Valid ids ∧ w = { s with toInventory := w.toInventory, drawn := w.drawn } ∧
      Registered (s.memory []) port ingress egress s.toInventory w.toInventory pair group ip := by
  obtain ⟨requested, hrequestedGroup, hrequested⟩ := hv.sound.requestedGroup_stored hstored
  obtain ⟨pair, created, pairs, n, hfind, hu, hpair⟩ :=
    exists_pairGiven hv.sound hids ingress egress
  obtain ⟨group, groups, drawn, hgroup, hplaced⟩ := exists_groupGiven (m := s.memory []) hu hids
    (Kind.portPair.key pair) rfl rfl hrequested
  have hrun := calm_registerInspectionPort hingress hegress hrequestedGroup hfind hplaced
  -- the steps that lead there keep the ends of pairs apart
  obtain ⟨_, w, hw, hsteps⟩ := (registerInspectionPort_inSteps hv hids port).run []
  cases Service.memory_injective ((congrArg Prod.snd hrun).symm.trans hw)
  have hvw := hv.chainSteps hids hsteps
  obtain ⟨hmem, hingress, hegress⟩ := hpair.mem
  have hpairNamed : pair.id = some (Kind.portPair.key pair) := hvw.sound.idOf_eq .portPair hmem
  refine ⟨_, pair, group, _, hrun, hvw, rfl, ?_⟩
  exact
    { pairs := hpair
      only := fun p hp hends ↦ hvw.linked.eq_of_ends hp hmem (by rw [hends, hingress, hegress])
      groups := hgroup
      pairNamed := hpairNamed
      groupNamed := hvw.sound.idOf_eq .portPairGroup hgroup.mem.1
      answer := by rw [hpairNamed]
      ports := rfl
      portChains := rfl
      flowClassifiers := rfl }

namespace Registered

variable {m : Memory} {ip again : InspectionPort}

theorem stores (h : Registered m port ingress egress v w.toInventory pair group ip)
    (hstored : ∀ id ∈ port.parentId, id ≠ "" → v.Stores .portPairGroup id)
    (hagain : again = port ∨ again = ip) :
    ∀ id ∈ again.parentId, id ≠ "" → w.Stores .portPairGroup id := by
  intro id hid hne
  rcases hagain with rfl | rfl
  · obtain ⟨g, hg, hgid⟩ := hstored id hid hne
    obtain ⟨g', hg', hsame⟩ := h.groups.kept hg
    exact ⟨g', hg', hsame.trans hgid⟩
  · rw [h.answer] at hid
    exact ⟨group, h.groups.mem.1, hid⟩

theorem calm_again (h : Registered m port ingress egress v w.toInventory pair group ip)
    (hw : w.Valid ids) (hids : Function.Injective ids)
    (hingress : Guard.requireText port.ingressId "Ingress port" = .ok ingress)
    (hegress : Guard.requireText port.egressId "Egress port" = .ok egress)
    (hends : again.ingressPort = port.ingressPort ∧ again.egressPort = port.egressPort)
    (hstored : ∀ id ∈ again.parentId, id ≠ "" → w.Stores .portPairGroup id) :
    calm ids (registerInspectionPort again) w = (.ok ip, w.memory []) := by
  obtain ⟨hpair, hpairIngress, hpairEgress⟩ := h.pairs.mem
  obtain ⟨hgroup, hlisted⟩ := h.groups.mem
  have hfound := hw.linked.pairByPorts hpair
  rw [hpairIngress, hpairEgress] at hfound
  have hfind : Atomic ids .never (findOrCreatePair ingress egress) w _ _ :=
    .findOrCreatePair hw.sound hids ingress egress
  rw [hfound] at hfind
  obtain ⟨requested, hrequested, -⟩ := hw.sound.requestedGroup_stored hstored
  have hagainIngress : again.ingressId = port.ingressId := by
    rw [InspectionPort.ingressId, hends.1, InspectionPort.ingressId]
  have hagainEgress : again.egressId = port.egressId := by
    rw [InspectionPort.egressId, hends.2, InspectionPort.egressId]
  have hrun := calm_registerInspectionPort (hagainIngress ▸ hingress) (hagainEgress ▸ hegress)
    hrequested hfind (.inl ⟨hw.linked.groupOfPair hgroup hlisted, rfl⟩)
  rw [h.answer, h.pairNamed, ← hends.1, ← hends.2]
  exact hrun

theorem pairOf_eq (h : Registered m port ingress egress v w.toInventory pair group ip)
    (hw : w.Sound ids) (hpairId : Kind.portPair.key pair ≠ "") : w.pairOf ip = some pair := by
  rw [Inventory.pairOf, h.answer, h.pairNamed, Inventory.pairById, Option.bind_some,
    if_neg hpairId, hw.find?_of_mem .portPair h.pairs.mem.1, Option.some_or]

theorem calm_get (h : Registered m port ingress egress v w.toInventory pair group ip)
    (hw : w.Valid ids) (hpairId : Kind.portPair.key pair ≠ "") (hingress : ingress ≠ "")
    (hegress : egress ≠ "") :
    ∃ found, calm ids (getInspectionPort ip) w = (.ok (some found), w.memory []) ∧
      found.elementId = ip.elementId ∧ found.parentId = ip.parentId := by
  obtain ⟨-, hpairIngress, hpairEgress⟩ := h.pairs.mem
  obtain ⟨hgroup, hlisted⟩ := h.groups.mem
  have hread : Atomic ids .never (Lookup.pairOf ip) w (.ok (some pair)) w :=
    h.pairOf_eq hw.sound hpairId ▸ .pairOf w ip
  have hscan : Atomic ids .never (Lookup.groupOfPair (Kind.portPair.key pair)) w
      (.ok (some group)) w := hw.linked.groupOfPair hgroup hlisted ▸ .groupOfPair w _
  have hendpoint {portId parentId : String} (hne : portId ≠ "") :
      Atomic ids .never (Lookup.endpoint (some portId) parentId) w _ w :=
    .last (.get_of_ne w .port hne)
  obtain ⟨found, hfound, hpairOf, hgroupOf⟩ : ∃ found,
      Atomic ids .never (Lookup.inspectionPort pair group.id) w (.ok found) w ∧
        found.elementId = pair.id ∧ found.parentId = group.id := by
    rw [Lookup.inspectionPort, hpairIngress, hpairEgress]
    exact ⟨_, .bind (hendpoint hingress) (.last (hendpoint hegress)), rfl, rfl⟩
  refine ⟨found, (calm_step hread).trans ((calm_step hscan).trans (calm_step hfound)), ?_⟩
  rw [h.answer]
  exact ⟨hpairOf, hgroupOf⟩

end Registered

theorem history_valid (key : String) (hids : Function.Injective ids) (project : String)
    (ports : List Port) (events : List Event) {m : Memory}
    (hm : m = history key ids (seeded ids project ports) events) (hcalm : m.failures = []) :
    ∃ s : Service, m = s.memory [] ∧ s.Valid ids := by
  obtain ⟨s, hs, hbare, -⟩ := seeded_eq ids project ports
  obtain ⟨failures, t, ht, hsteps⟩ := history_steps key hbare.valid hids [] events
  rw [hs, ht] at hm
  subst hm
  cases hcalm
  exact ⟨t, rfl, hbare.valid.steps hids hsteps⟩

/-- A registration fails where the group that it names is gone, and changes nothing then. Otherwise
it finds or creates the pair and its group. What it answers names them again: to register it, or to
register the same once more, gives the same and changes nothing, and it can be read. -/
theorem registerInspectionPort_idempotent (hids : Function.Injective ids)
    (hblank : ∀ n, Text.blank (ids n) = false) {project : String} {ports : List Port}
    {events : List Event} {m : Memory}
    (hm : m = history key ids (seeded ids project ports) events) (hcalm : m.failures = [])
    (hingress : port.ingressId = some ingress) (hingressText : Text.blank ingress = false)
    (hegress : port.egressId = some egress) (hegressText : Text.blank egress = false) :
    ∃ v : Inventory, m.collections = v.collections ∧
      (∀ id ∈ port.parentId, id ≠ "" → ¬ v.Stores .portPairGroup id →
        (Request.registerInspectionPort port).run key ids m =
          (.error (.notFound "Port Pair Group" id), m)) ∧
      ((∀ id ∈ port.parentId, id ≠ "" → v.Stores .portPairGroup id) →
        ∃ (n : Memory) (w : Inventory) (pair : PortPair) (group : PortPairGroup)
          (ip : InspectionPort),
          (Request.registerInspectionPort port).run key ids m = (.ok ip, n) ∧
          n = { m with collections := w.collections, drawn := n.drawn } ∧
          Registered m port ingress egress v w pair group ip ∧
          (∀ again, again = port ∨ again = ip →
            (Request.registerInspectionPort again).run key ids n = (.ok ip, n)) ∧
          ∃ found, (Request.getInspectionPort ip).run key ids n = (.ok (some found), n) ∧
            found.elementId = ip.elementId ∧ found.parentId = ip.parentId) := by
  obtain ⟨s, rfl, hv⟩ := history_valid key hids project ports events hm hcalm
  have hneeded : Guard.requireText port.ingressId "Ingress port" = .ok ingress :=
    Guard.requireText_eq_ok_iff.2 ⟨hingress, hingressText⟩
  have hneeded' : Guard.requireText port.egressId "Egress port" = .ok egress :=
    Guard.requireText_eq_ok_iff.2 ⟨hegress, hegressText⟩
  refine ⟨s.toInventory, rfl, fun id hparent hne hgone ↦ ?_, fun hstored ↦ ?_⟩
  · have hfail : Atomic ids .never (Engine.registerInspectionPort port) s
        (.error (.notFound "Port Pair Group" id)) s := by
      rw [Engine.registerInspectionPort, hneeded, hneeded']
      refine .bind (.lift _) (.bind (.lift _) (.stop ?_))
      exact hv.sound.requestedGroup_gone hparent hne hgone ▸ .requestedGroup s port
    exact hfail.run_eq
  · obtain ⟨ip, pair, group, w, hrun, hw, hsame, h⟩ :=
      exists_registered hv hids hneeded hneeded' hstored
    have hpairId := hw.sound.id_ne hblank .portPair (by decide) h.pairs.mem.1
    refine ⟨w.memory [], w.toInventory, pair, group, ip, hrun, ?_, h, fun again hagain ↦ ?_,
      h.calm_get hw hpairId (Guard.ne_of_requireText hneeded) (Guard.ne_of_requireText hneeded')⟩
    · rw [hsame]
      rfl
    -- the answer names the ends by the ids that were asked for
    · have hends : again.ingressPort = port.ingressPort ∧ again.egressPort = port.egressPort := by
        rcases hagain with rfl | rfl
        · exact ⟨rfl, rfl⟩
        · rw [h.answer]
          exact ⟨rfl, rfl⟩
      exact h.calm_again hw hids hneeded hneeded' hends (h.stores hstored hagain)

namespace Sample

def reversed : InspectionPort where
  ingressPort := some { elementId := some "right" }
  egressPort := some { elementId := some "left" }

end Sample

theorem sample_reversed_registered_again :
    Function.Injective numberedId ∧ (∀ n, Text.blank (numberedId n) = false) ∧
      Sample.memory.failures = [] ∧ Sample.reversed.ingressId = some "right" ∧
      Text.blank "right" = false ∧ Sample.reversed.egressId = some "left" ∧
      Text.blank "left" = false ∧
      ∃ ip n, (Request.registerInspectionPort Sample.reversed).run defaultKey numberedId
          Sample.memory = (.ok ip, n) ∧
        ip.elementId = some (numberedId 4) ∧ ip.parentId = some (numberedId 5) ∧
        (Request.registerInspectionPort ip).run defaultKey numberedId n = (.ok ip, n) := by
  obtain ⟨v, -, -, hregister⟩ := registerInspectionPort_idempotent (m := Sample.memory)
    numberedId_injective numberedId_not_blank rfl rfl
    (show Sample.reversed.ingressId = some "right" from rfl) (by decide)
    (show Sample.reversed.egressId = some "left" from rfl) (by decide)
  obtain ⟨n, w, pair, group, ip, hrun, -, -, hagain, -⟩ := hregister nofun
  have hnamed : ((Request.registerInspectionPort Sample.reversed).run defaultKey numberedId
      Sample.memory).1 = .ok { Sample.reversed with
        elementId := some (numberedId 4), parentId := some (numberedId 5) } := rfl
  rw [hrun] at hnamed
  cases hnamed
  exact ⟨numberedId_injective, numberedId_not_blank, rfl, rfl, by decide, rfl, by decide, _, n,
    hrun, rfl, rfl, hagain _ (.inr rfl)⟩

end TrafficSteering
