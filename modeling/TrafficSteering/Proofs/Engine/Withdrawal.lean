import TrafficSteering.Proofs.Engine.Registration

namespace TrafficSteering

open Engine HookTag

variable {key : String} {ids : Nat → String} {s : Service} {v w : Inventory}
  {port : InspectionPort} {pair p : PortPair} {group g : PortPairGroup}
  {pairId ingress egress : String}

/-- The pair that a request is about: the one with the id that it names, or else the one with its
ends. -/
inductive Inventory.Meant (v : Inventory) (port : InspectionPort) (p : PortPair) : Prop
  | byId {id : String} (hmem : p ∈ v.portPairs) (hport : port.elementId = some id) (hne : id ≠ "")
      (hid : p.id = some id)
  | byEnds (hmem : p ∈ v.portPairs)
      (hunnamed : ∀ id ∈ port.elementId, id ≠ "" → ¬ v.Stores .portPair id)
      (hsome : port.ingressId ≠ none ∨ port.egressId ≠ none)
      (hends : (p.ingress, p.egress) = (port.ingressId, port.egressId))

theorem Service.Valid.pairOf_eq_some_iff (hv : s.Valid ids) :
    s.pairOf port = some p ↔ s.Meant port p := by
  -- the ends count only where the id names no pair
  have hunnamed : s.pairById port.elementId = none ↔
      ∀ id ∈ port.elementId, id ≠ "" → ¬ s.Stores .portPair id := by
    rw [Inventory.pairById]
    cases port.elementId with
    | none => simp
    | some id => by_cases hne : id = "" <;> simp [hne, hv.sound.find?_eq_none_iff]
  have habsent : (port.ingressId.isNone && port.egressId.isNone) = true ↔
      ¬ (port.ingressId ≠ none ∨ port.egressId ≠ none) := by simp [not_or]
  rw [Inventory.pairOf, Option.or_eq_some_iff, hunnamed]
  constructor
  · rintro (hid | ⟨hnone, hends⟩)
    · obtain ⟨id, hport, hid⟩ := Option.bind_eq_some_iff.1 hid
      split at hid
      · cases hid
      · rename_i hne
        obtain ⟨rfl, -⟩ := Inventory.find?_eq_some hid
        have hmem := List.mem_of_find?_eq_some hid
        exact .byId hmem hport hne (hv.sound.idOf_eq .portPair hmem)
    · split at hends
      · cases hends
      · rename_i hsome
        have hfound := List.find?_some hends
        exact .byEnds (List.mem_of_find?_eq_some hends) hnone (not_not.1 (mt habsent.2 hsome))
          (by simpa using hfound)
  · rintro (⟨hmem, hport, hne, hid⟩ | ⟨hmem, hnone, hsome, hends⟩)
    · refine .inl ?_
      have hfind := hv.sound.find?_of_mem .portPair hmem
      rw [Kind.key_eq (show Kind.portPair.idOf p = some _ from hid)] at hfind
      rw [hport, Inventory.pairById, Option.bind_some, if_neg hne]
      exact hfind
    · obtain ⟨hingress, hegress⟩ := Prod.mk.inj hends
      refine .inr ⟨hnone, ?_⟩
      rw [if_neg fun h ↦ habsent.1 h hsome, ← hingress, ← hegress]
      exact hv.linked.pairByPorts hmem

/-- What is left of a group when a pair is gone: nothing, where it was the only one. -/
def PortPairGroup.leave (pairId : String) (g : PortPairGroup) : Option PortPairGroup :=
  if pairId ∈ g.portPairs then
    if g.portPairs.filter (· ≠ pairId) = [] then none
    else some { g with portPairs := g.portPairs.filter (· ≠ pairId) }
  else some g

def Inventory.without (v : Inventory) (pairId : String) : Inventory :=
  { v with
    portPairs := v.portPairs.filter fun p ↦ p.id ≠ some pairId
    portPairGroups := v.portPairGroups.filterMap (PortPairGroup.leave pairId) }

/-- The pair is all that there is in a group of a chain. -/
def Inventory.Pinned (v : Inventory) (pairId : String) : Prop :=
  ∃ g ∈ v.portPairGroups, g.portPairs = [pairId] ∧
    ∃ c ∈ v.portChains, ∃ id ∈ c.portPairGroups, g.id = some id

theorem PortPairGroup.leave_of_not_mem (h : pairId ∉ g.portPairs) : g.leave pairId = some g :=
  if_neg h

theorem PortPairGroup.not_mem_leave (h : g.leave pairId = some group) :
    pairId ∉ group.portPairs := by
  rw [leave] at h
  split at h
  · split at h
    · cases h
    · cases h
      simp
  · cases h
    assumption

theorem filterMap_leave_of_free {l : List PortPairGroup} (h : ∀ g ∈ l, pairId ∉ g.portPairs) :
    l.filterMap (PortPairGroup.leave pairId) = l := by
  rw [List.filterMap_congr fun g hg ↦ PortPairGroup.leave_of_not_mem (h g hg), List.filterMap_some]

theorem Inventory.Linked.eq_singleton (h : v.Linked) (hg : g ∈ v.portPairGroups)
    (hlisted : pairId ∈ g.portPairs) (hlast : g.portPairs.filter (· ≠ pairId) = []) :
    g.portPairs = [pairId] := by
  have hnodup : g.portPairs.Nodup := (List.nodup_flatMap.1 h.pairsOnce).1 g hg
  obtain ⟨k₁, k₂, hsplit⟩ := List.append_of_mem hlisted
  rw [hsplit, List.nodup_middle, List.nodup_cons] at hnodup
  have hothers : (k₁ ++ k₂).filter (· ≠ pairId) = [] := by
    simpa [hsplit] using hlast
  rw [List.filter_eq_self.2 fun x hx ↦ decide_eq_true (ne_of_mem_of_not_mem hx hnodup.1)] at hothers
  obtain ⟨rfl, rfl⟩ := List.append_eq_nil_iff.1 hothers
  exact hsplit

theorem Inventory.Linked.filterMap_leave {l₁ l₂ : List PortPairGroup} (h : v.Linked)
    (hsplit : v.portPairGroups = l₁ ++ g :: l₂) (hlisted : pairId ∈ g.portPairs) :
    v.portPairGroups.filterMap (PortPairGroup.leave pairId) =
      l₁ ++ (g.leave pairId).toList ++ l₂ := by
  have hothers := h.others hsplit hlisted
  rw [hsplit, List.filterMap_append, List.filterMap_cons,
    filterMap_leave_of_free fun x hx ↦ hothers x (List.mem_append_left _ hx),
    filterMap_leave_of_free fun x hx ↦ hothers x (List.mem_append_right _ hx)]
  cases g.leave pairId <;> simp

theorem Service.Sound.filter_pairs {l₁ l₂ : List PortPair} (hs : s.Sound ids)
    (hsplit : s.portPairs = l₁ ++ pair :: l₂) :
    (s.portPairs.filter fun p ↦ p.id ≠ some (Kind.portPair.key pair)) = l₁ ++ l₂ := by
  have hpairs : s.get .portPair = l₁ ++ pair :: l₂ := hsplit
  obtain ⟨hleft, hright⟩ := hs.keys_ne hpairs
  have hid : pair.id = some (Kind.portPair.key pair) :=
    hs.idOf_eq .portPair (by simp [hpairs])
  have hkeep {l : List PortPair}
      (h : ∀ x ∈ l, Kind.portPair.key x ≠ Kind.portPair.key pair) :
      (l.filter fun p ↦ p.id ≠ some (Kind.portPair.key pair)) = l := by
    refine List.filter_eq_self.2 fun x hx ↦ decide_eq_true fun he ↦ ?_
    exact h x hx (Kind.key_eq (show Kind.portPair.idOf x = some _ from he))
  rw [hsplit, List.filter_append, List.filter_cons_of_neg (by simpa using hid), hkeep hleft,
    hkeep hright]

theorem Atomic.leaveGroup {l₁ l₂ : List PortPairGroup} (hs : s.Sound ids)
    (hsplit : s.portPairGroups = l₁ ++ g :: l₂) (hlisted : pairId ∈ g.portPairs)
    (hne : Kind.portPairGroup.key g ≠ "")
    (hfree : g.portPairs.filter (· ≠ pairId) = [] →
      s.Free (Kind.portPairGroup.key g) .portPairGroup) :
    Atomic ids .never (Engine.leaveGroup g pairId) s (.ok ())
      (s.put .portPairGroup (l₁ ++ (g.leave pairId).toList ++ l₂)) := by
  rw [Engine.leaveGroup, PortPairGroup.leave, if_pos hlisted]
  by_cases hlast : g.portPairs.filter (· ≠ pairId) = []
  · simp only [hlast, List.isEmpty_nil, if_true, Option.toList_none, List.append_nil]
    exact .delete hs (Faults.not_feigns_never _) hsplit hne (hfree hlast)
  · have hsome : (g.portPairs.filter (· ≠ pairId)).isEmpty = false := by simpa using hlast
    simp only [hsome, hlast, if_false, Option.toList_some, List.append_assoc,
      List.singleton_append]
    exact .last (.setPairs hs hsplit hne _)

theorem Service.Sound.leave {l₁ l₂ : List PortPairGroup} (hs : s.Sound ids)
    (hsplit : s.portPairGroups = l₁ ++ g :: l₂) (pairId : String) :
    (s.put .portPairGroup (l₁ ++ (g.leave pairId).toList ++ l₂)).Sound ids := by
  rw [List.append_assoc, PortPairGroup.leave]
  split
  · split
    · exact hs.remove hsplit
    · exact hs.amend .portPairGroup hsplit rfl
  · have hget : s.get .portPairGroup = l₁ ++ g :: l₂ := hsplit
    exact (Service.put_eq_self .portPairGroup hget).symm ▸ hs

theorem Service.Valid.leaveGroup (hv : s.Valid ids) (hblank : ∀ n, Text.blank (ids n) = false)
    (hfree : ¬ s.Pinned pairId) {u : Service}
    (hu : u = s.put .portPairGroup (s.portPairGroups.filterMap (PortPairGroup.leave pairId))) :
    u.Sound ids ∧ (s.groupOfPair pairId = none ∧ u = s ∨ ∃ g, s.groupOfPair pairId = some g ∧
      Atomic ids .never (Engine.leaveGroup g pairId) s (.ok ()) u) := by
  cases hgroup : s.groupOfPair pairId with
  | none =>
    have hsame : u = s := by
      rw [hu, filterMap_leave_of_free (Inventory.groupOfPair_eq_none.1 hgroup)]
      exact Service.put_eq_self .portPairGroup rfl
    exact ⟨hsame ▸ hv.sound, .inl ⟨rfl, hsame⟩⟩
  | some g =>
    obtain ⟨hg, hlisted⟩ := Inventory.groupOfPair_eq_some hgroup
    obtain ⟨l₁, l₂, hsplit⟩ := List.append_of_mem hg
    have hne := hv.sound.id_ne hblank .portPairGroup (by decide) hg
    rw [hv.linked.filterMap_leave hsplit hlisted] at hu
    subst hu
    refine ⟨hv.sound.leave hsplit pairId, .inr ⟨g, rfl, ?_⟩⟩
    refine .leaveGroup hv.sound hsplit hlisted hne fun hlast c hc hchained ↦ hfree ?_
    exact ⟨g, hg, hv.linked.eq_singleton hg hlisted hlast, c, hc, _, hchained,
      hv.sound.idOf_eq .portPairGroup hg⟩

theorem calm_removeInspectionPort (hv : s.Valid ids) (hblank : ∀ n, Text.blank (ids n) = false)
    (hmeant : s.pairOf port = some pair) (hfree : ¬ s.Pinned (Kind.portPair.key pair)) :
    calm ids (removeInspectionPort port) s = (.ok (), { s with
      toInventory := s.toInventory.without (Kind.portPair.key pair) : Service }.memory []) := by
  have hmem := Inventory.mem_of_pairOf hmeant
  have hne := hv.sound.id_ne hblank .portPair (by decide) hmem
  obtain ⟨k₁, k₂, hpairs⟩ := List.append_of_mem hmem
  -- the pair is let go where no group lists it any more
  obtain ⟨u, hu⟩ : ∃ u, u = s.put .portPairGroup
    (s.portPairGroups.filterMap (PortPairGroup.leave (Kind.portPair.key pair))) := ⟨_, rfl⟩
  obtain ⟨hsu, hgroup⟩ := hv.leaveGroup hblank hfree hu
  have hpairsAfter : u.get .portPair = k₁ ++ pair :: k₂ := by
    rw [hu]
    exact hpairs
  have hfreeAfter : u.Free (Kind.portPair.key pair) .portPair := by
    intro g hg
    rw [hu] at hg
    obtain ⟨g', -, hleave⟩ := List.mem_filterMap.1 hg
    exact PortPairGroup.not_mem_leave hleave
  have hread : Atomic ids .never (Lookup.pairOf port) s (.ok (some pair)) s :=
    hmeant ▸ .pairOf s port
  have hscan : Atomic ids .never (Lookup.groupOfPair (Kind.portPair.key pair)) s _ s :=
    .groupOfPair s _
  have hdelete : Atomic ids .never (Gateway.delete .portPair (Kind.portPair.key pair)) u _ _ :=
    .delete hsu (Faults.not_feigns_never _) hpairsAfter hne hfreeAfter
  have hafter : u.put .portPair (k₁ ++ k₂) =
      { s with toInventory := s.toInventory.without (Kind.portPair.key pair) } := by
    rw [hu, ← hv.sound.filter_pairs hpairs]
    rfl
  refine (calm_step hread).trans ((calm_step hscan).trans ?_)
  rw [← hafter]
  obtain ⟨hgroup, rfl⟩ | ⟨g, hgroup, hleave⟩ := hgroup
  · rw [hgroup]
    exact calm_mapError.2 hdelete.run_eq
  · rw [hgroup]
    exact (calm_step hleave).trans (calm_mapError.2 hdelete.run_eq)

/-- The group is not let go by its chain. -/
theorem calm_removeInspectionPort_pinned (hv : s.Valid ids)
    (hblank : ∀ n, Text.blank (ids n) = false) (hmeant : s.pairOf port = some pair)
    (hpinned : s.Pinned (Kind.portPair.key pair)) :
    ∃ text, calm ids (removeInspectionPort port) s =
      (.error (.callFailure .delete "Port Pair Group" (some 409) text), s.memory []) := by
  obtain ⟨g, hg, halone, c, hc, id, hchained, hid⟩ := hpinned
  have hgroup := hv.linked.groupOfPair hg (halone ▸ List.mem_singleton_self _)
  have hne := hv.sound.id_ne hblank .portPairGroup (by decide) hg
  have hheld : ¬ s.Free (Kind.portPairGroup.key g) .portPairGroup := fun hfree ↦ by
    rw [Kind.key_eq (show Kind.portPairGroup.idOf g = some id from hid)] at hfree
    exact hfree c hc hchained
  obtain ⟨text, hrun⟩ : ∃ text, calm ids (Gateway.delete .portPairGroup
      (Kind.portPairGroup.key g)) s = (.error (.callFailure .delete "Port Pair Group" (some 409)
        text), s.memory []) := calm_delete_held hne hheld
  have hleave : Engine.leaveGroup g (Kind.portPair.key pair) =
      Gateway.delete .portPairGroup (Kind.portPairGroup.key g) := by
    have hlast : (g.portPairs.filter (· ≠ Kind.portPair.key pair)).isEmpty = true := by
      simp [halone]
    rw [Engine.leaveGroup]
    simp only [hlast, if_true]
    rfl
  have hread : Atomic ids .never (Lookup.pairOf port) s (.ok (some pair)) s :=
    hmeant ▸ .pairOf s port
  have hscan : Atomic ids .never (Lookup.groupOfPair (Kind.portPair.key pair)) s (.ok (some g)) s :=
    hgroup ▸ .groupOfPair s _
  exact ⟨text, Atomic.run_eq (.bind hread (.bind hscan (.stop (hleave ▸ .of_calm hrun))))⟩

theorem PairGiven.filter_eq {m : Memory} {before after : List PortPair}
    (h : PairGiven m ingress egress before pair after)
    (hnone : ∀ p ∈ before, (p.ingress, p.egress) ≠ (some ingress, some egress)) :
    (∀ p ∈ before, p.id ≠ pair.id) ∧ after.filter (fun p ↦ p.id ≠ pair.id) = before := by
  cases h with
  | found hmem hingress hegress => exact absurd (by rw [hingress, hegress]) (hnone pair hmem)
  | @created id _ _ hfresh hpair =>
    have hid : pair.id = some id := by
      rw [hpair]
      rfl
    have hnew : ∀ p ∈ before, p.id ≠ pair.id := fun p hp ↦ hid ▸ hfresh p hp
    refine ⟨hnew, ?_⟩
    rw [List.filter_append, List.filter_eq_self.2 fun p hp ↦ decide_eq_true (hnew p hp)]
    simp

theorem GroupGiven.filterMap_leave {m : Memory} {requested : Option String}
    {before after : List PortPairGroup} (h : GroupGiven m pairId requested before group after)
    (hfree : ∀ g ∈ before, pairId ∉ g.portPairs) (hfilled : ∀ g ∈ before, g.portPairs ≠ []) :
    after.filterMap (PortPairGroup.leave pairId) = before := by
  cases h with
  | grouped hmem hlisted => exact absurd hlisted (hfree group hmem)
  | @joined l₁ l₂ g id _ hsplit =>
    subst hsplit
    have hg : g ∈ l₁ ++ g :: l₂ := by simp
    have hkept : (g.portPairs ++ [pairId]).filter (· ≠ pairId) = g.portPairs := by
      rw [List.filter_append, List.filter_eq_self.2 fun x hx ↦
        decide_eq_true (ne_of_mem_of_not_mem hx (hfree g hg))]
      simp
    have hback : PortPairGroup.leave pairId { g with portPairs := g.portPairs ++ [pairId] } =
        some g := by
      rw [PortPairGroup.leave, if_pos (by simp), hkept, if_neg (hfilled g hg)]
    rw [List.filterMap_append, List.filterMap_cons, hback,
      filterMap_leave_of_free fun x hx ↦ hfree x (by simp [hx]),
      filterMap_leave_of_free fun x hx ↦ hfree x (by simp [hx])]
  | alone _ _ _ hgroup =>
    have hgone : PortPairGroup.leave pairId group = none := by
      have hlisted : group.portPairs = [pairId] := by
        rw [hgroup]
        rfl
      simp [PortPairGroup.leave, hlisted]
    rw [List.filterMap_append, filterMap_leave_of_free hfree]
    simp [hgone]

theorem GroupGiven.fresh_of_alone {m : Memory} {requested : Option String}
    {before after : List PortPairGroup} (h : GroupGiven m pairId requested before group after)
    (hfree : ∀ g ∈ before, pairId ∉ g.portPairs) (hfilled : ∀ g ∈ before, g.portPairs ≠ [])
    (hg : g ∈ after) (halone : g.portPairs = [pairId]) : ∀ x ∈ before, x.id ≠ g.id := by
  have hnew : g ∉ before := fun hmem ↦ hfree g hmem (halone ▸ List.mem_singleton_self pairId)
  cases h with
  | grouped => exact absurd hg hnew
  | @joined l₁ l₂ joined _ _ hsplit =>
    subst hsplit
    -- a group is joined by the side of the pairs that are in it
    obtain rfl : g = { joined with portPairs := joined.portPairs ++ [pairId] } := by grind
    exact absurd (by simpa using halone) (hfilled joined (by simp))
  | @alone id _ _ _ hfresh hgroup =>
    obtain rfl : g = group := by grind
    have hid : g.id = some id := by
      rw [hgroup]
      rfl
    exact hid ▸ hfresh

namespace Registered

variable {m : Memory} {ip : InspectionPort}

theorem free (h : Registered m port ingress egress v w pair group ip) (hv : v.Linked)
    (hnone : ∀ p ∈ v.portPairs, (p.ingress, p.egress) ≠ (some ingress, some egress)) :
    v.Free (Kind.portPair.key pair) .portPair := by
  intro g hg hlisted
  obtain ⟨p, hp, hid⟩ := hv.pairsStored g hg _ hlisted
  exact (h.pairs.filter_eq hnone).1 p hp (hid.trans h.pairNamed.symm)

theorem not_pinned (h : Registered m port ingress egress v w pair group ip) (hv : v.Linked)
    (hnone : ∀ p ∈ v.portPairs, (p.ingress, p.egress) ≠ (some ingress, some egress)) :
    ¬ w.Pinned (Kind.portPair.key pair) := by
  rintro ⟨g, hg, halone, c, hc, id, hchained, hid⟩
  obtain ⟨x, hx, hxid⟩ := hv.groupsStored c (h.portChains ▸ hc) id hchained
  exact h.groups.fresh_of_alone (h.free hv hnone) hv.filled hg halone x hx (hxid.trans hid.symm)

/-- A pair that was created is taken back with all that was made for it. -/
theorem without_eq (h : Registered m port ingress egress v w pair group ip) (hv : v.Linked)
    (hnone : ∀ p ∈ v.portPairs, (p.ingress, p.egress) ≠ (some ingress, some egress)) :
    w.without (Kind.portPair.key pair) = v := by
  have hpairs := (h.pairs.filter_eq hnone).2
  rw [h.pairNamed] at hpairs
  rw [Inventory.without, hpairs, h.groups.filterMap_leave (h.free hv hnone) hv.filled, h.ports,
    h.portChains, h.flowClassifiers]

end Registered

theorem registered_of_calm (hv : s.Valid ids) (hids : Function.Injective ids) {ip : InspectionPort}
    {n : Memory} (hrun : calm ids (registerInspectionPort port) s = (.ok ip, n)) :
    ∃ ingress egress pair group, ∃ w : Service, port.ingressId = some ingress ∧
      port.egressId = some egress ∧ n = w.memory [] ∧ w.Valid ids ∧
      Registered (s.memory []) port ingress egress s.toInventory w.toInventory pair group ip := by
  obtain ⟨ingress, hingress, hrest⟩ := Atomic.calm_bind (.lift _) hrun
  obtain ⟨egress, hegress, hrest⟩ := Atomic.calm_bind (.lift _) hrest
  obtain ⟨requested, hrequested, -⟩ := Atomic.calm_bind (.requestedGroup s port) hrest
  have hstored : ∀ id ∈ port.parentId, id ≠ "" → s.Stores .portPairGroup id := by
    intro id hparent hne
    by_contra hgone
    cases hrequested.symm.trans (hv.sound.requestedGroup_gone hparent hne hgone)
  obtain ⟨ip', pair, group, w, hagain, hw, -, h⟩ :=
    exists_registered hv hids hingress hegress hstored
  cases hrun.symm.trans hagain
  exact ⟨ingress, egress, pair, group, w, (Guard.requireText_eq_ok_iff.1 hingress).1,
    (Guard.requireText_eq_ok_iff.1 hegress).1, rfl, hw, h⟩

/-- A removal does nothing where no pair is meant, and it fails where the pair is all that there is
in a group of a chain. Otherwise it takes away the pair, and the group with the last pair of it. So
what a registration has made is taken back by the removal of what it answered. -/
theorem removeInspectionPort_exact (hids : Function.Injective ids)
    (hblank : ∀ n, Text.blank (ids n) = false) {project : String} {ports : List Port}
    {events : List Event} {m : Memory}
    (hm : m = history key ids (seeded ids project ports) events) (hcalm : m.failures = [])
    (port : InspectionPort) :
    ∃ v : Inventory, m.collections = v.collections ∧
      ((∀ p, ¬ v.Meant port p) →
        (Request.removeInspectionPort port).run key ids m = (.ok (), m)) ∧
      (∀ p, v.Meant port p → ∃ pairId, p.id = some pairId ∧
        (v.Pinned pairId → ∃ text, (Request.removeInspectionPort port).run key ids m =
          (.error (.callFailure .delete "Port Pair Group" (some 409) text), m)) ∧
        (¬ v.Pinned pairId → (Request.removeInspectionPort port).run key ids m =
          (.ok (), { m with collections := (v.without pairId).collections }))) ∧
      ∀ ip n, (∀ p ∈ v.portPairs, (p.ingress, p.egress) ≠ (port.ingressId, port.egressId)) →
        (Request.registerInspectionPort port).run key ids m = (.ok ip, n) →
          (Request.removeInspectionPort ip).run key ids n =
            (.ok (), { n with collections := m.collections }) := by
  obtain ⟨s, rfl, hv⟩ := history_valid key hids project ports events hm hcalm
  refine ⟨s.toInventory, rfl, fun hnone ↦ ?_, fun p hmeant ↦ ?_, fun ip n hnone hrun ↦ ?_⟩
  · have hpairOf : s.pairOf port = none :=
      Option.eq_none_iff_forall_ne_some.2 fun p hp ↦ hnone p (hv.pairOf_eq_some_iff.1 hp)
    have hread : Atomic ids .never (Lookup.pairOf port) s (.ok none) s := hpairOf ▸ .pairOf s port
    exact calm_step hread
  · have hpairOf := hv.pairOf_eq_some_iff.2 hmeant
    exact ⟨Kind.portPair.key p, hv.sound.idOf_eq .portPair (Inventory.mem_of_pairOf hpairOf),
      calm_removeInspectionPort_pinned hv hblank hpairOf,
      calm_removeInspectionPort hv hblank hpairOf⟩
  · obtain ⟨ingress, egress, pair, group, w, hingress, hegress, rfl, hw, h⟩ :=
      registered_of_calm hv hids hrun
    rw [hingress, hegress] at hnone
    have hpairId := hw.sound.id_ne hblank .portPair (by decide) h.pairs.mem.1
    have hremove := calm_removeInspectionPort hw hblank (h.pairOf_eq hw.sound hpairId)
      (h.not_pinned hv.linked hnone)
    rw [h.without_eq hv.linked hnone] at hremove
    exact hremove

theorem sample_reversed_taken_back :
    Function.Injective numberedId ∧ (∀ n, Text.blank (numberedId n) = false) ∧
      Sample.memory.failures = [] ∧
      ∃ ip n, (Request.registerInspectionPort Sample.reversed).run defaultKey numberedId
          Sample.memory = (.ok ip, n) ∧
        ip.elementId = some (numberedId 4) ∧
        (Request.removeInspectionPort ip).run defaultKey numberedId n =
          (.ok (), { n with collections := Sample.memory.collections }) := by
  obtain ⟨v, hv, -, -, htakenBack⟩ := removeInspectionPort_exact (m := Sample.memory)
    numberedId_injective numberedId_not_blank rfl rfl Sample.reversed
  have hpairs : v.portPairs =
      [Kind.portPair.created (numberedId 1) "project" 1 (newPair "left" "right")] :=
    Kind.portPair.written_injective ((congrArg Collections.portPairs hv).symm.trans rfl)
  have hnone : ∀ p ∈ v.portPairs, (p.ingress, p.egress) ≠
      (Sample.reversed.ingressId, Sample.reversed.egressId) := by
    rw [hpairs]
    decide
  have hrun : (Request.registerInspectionPort Sample.reversed).run defaultKey numberedId
      Sample.memory = (.ok { Sample.reversed with
        elementId := some (numberedId 4), parentId := some (numberedId 5) },
        ((Request.registerInspectionPort Sample.reversed).run defaultKey numberedId
          Sample.memory).2) := rfl
  exact ⟨numberedId_injective, numberedId_not_blank, rfl, _, _, hrun, rfl,
    htakenBack _ _ hnone hrun⟩

end TrafficSteering
