import TrafficSteering.Proofs.Engine.Registration
import TrafficSteering.Proofs.Engine.Trees

namespace TrafficSteering

open Engine HookTag

variable {key : String} {ids : Nat → String} {faults : Faults} {s t : Service}
  {chain : Element} {groups : List NetworkElement} {groupIds : List String} {c : PortChain}

theorem Guard.groupIds_eq_ok (h : groups.map (·.elementId) = groupIds.map some)
    (hvisible : ∀ id ∈ groupIds, Text.blank id = false) :
    Guard.groupIds groups = .ok groupIds := by
  have hpresent : (groups.all fun g ↦ present g.elementId) = true := by
    refine List.all_eq_true.2 fun g hg ↦ ?_
    obtain ⟨id, hid, he⟩ := List.mem_map.1 (h ▸ List.mem_map_of_mem hg)
    rw [← he, present, Option.any_some, hvisible id hid]
    rfl
  have hids : (groups.map fun g ↦ g.elementId.getD "") = groupIds := by
    have hgetD := congrArg (List.map (Option.getD · "")) h
    rw [List.map_map, List.map_map] at hgetD
    exact hgetD.trans (List.map_id' groupIds)
  rw [Guard.groupIds_eq, if_pos hpresent, hids]

/-- The answer tells of a chain as it is stored, and so does what is read of it from then on. -/
structure Reported (key : String) (ids : Nat → String) (m : Memory) (c : PortChain)
    (answer : ServiceFunctionChain) : Prop where
  told : answer.Tells c
  read : ∀ chain : Element, chain.id = c.id → ∃ tree,
    (Request.getChain chain).run key ids m = (.ok tree, m) ∧ tree.Tells c

theorem Service.Orderly.reported (h : s.Orderly key ids) (hc : c ∈ s.portChains) :
    Reported key ids (s.memory []) c (Lookup.shallowChain c) where
  told := Lookup.shallowChain_tells (h.valid.sound.identified .portChain c hc)
  read _ hid := ⟨s.tree c, (h.getChain hc hid).run_eq, h.valid.tree_tells hc⟩

theorem Atomic.registerChain (hs : s.Sound ids) (hids : Function.Injective ids)
    (hsome : groups ≠ []) (hnamed : Guard.groupIds groups = .ok groupIds)
    (h : s.Chainable groupIds none) :
    Atomic ids faults (registerChain groups) s
      (.ok (Lookup.shallowChain (s.issue ids .portChain
        { description := some description, portPairGroups := groupIds })))
      (s.add ids .portChain { description := some description, portPairGroups := groupIds }) := by
  obtain ⟨r, hr, hchainable⟩ := validateGroups hs groupIds none
  rw [hchainable.2 h] at hr
  have hlisted : Guard.requireSome groups "Port Pair Group member list" = .ok () :=
    if_neg (by simpa using hsome)
  rw [Engine.registerChain, hlisted, hnamed]
  refine bind (lift _) (bind (lift _) (bind (hr _) ?_))
  exact last (create hs hids .portChain (by decide) _)

theorem Atomic.registerChain_refused (hs : s.Sound ids) (hsome : groups ≠ [])
    (hnamed : Guard.groupIds groups = .ok groupIds) (h : ¬ s.Chainable groupIds none) :
    ∃ e, Atomic ids faults (Engine.registerChain groups) s (.error e) s := by
  obtain ⟨r, hr, hchainable⟩ := validateGroups hs groupIds none
  have hlisted : Guard.requireSome groups "Port Pair Group member list" = .ok () :=
    if_neg (by simpa using hsome)
  rw [Engine.registerChain, hlisted, hnamed]
  cases r with
  | ok _ => exact absurd (hchainable.1 rfl) h
  | error e => exact ⟨e, bind (lift _) (bind (lift _) (stop (hr _)))⟩

theorem Service.Orderly.registerChain (h : s.Orderly key ids) (hsome : groups ≠ [])
    (hnamed : Guard.groupIds groups = .ok groupIds) (hgroups : s.Chainable groupIds none)
    (hc : c = s.issue ids .portChain
      { description := some description, portPairGroups := groupIds }) :
    ∃ answer t, calm ids (registerChain groups) s = (.ok answer, t.memory []) ∧
      t = { s with
        portChains := s.portChains ++ [c], nextChain := s.nextChain + 1, drawn := s.drawn + 1 } ∧
      Reported key ids (t.memory []) c answer := by
  have hrun : Atomic ids .never (Engine.registerChain groups) s _ _ :=
    .registerChain h.valid.sound h.distinct hsome hnamed hgroups
  subst hc
  refine ⟨_, _, hrun.run_eq, rfl, ?_⟩
  refine (h.after (.registerChain groups) hrun.run_eq).reported ?_
  simp [Service.add, Service.put, Inventory.set, Inventory.get]

theorem Service.Orderly.updateChain (h : s.Orderly key ids) {l₁ l₂ : List PortChain}
    (hupdate : Regroupable s chain groups l₁ l₂ c groupIds) :
    ∃ answer t, calm ids (updateChain chain groups) s = (.ok answer, t.memory []) ∧
      t = { s with portChains := l₁ ++ { c with portPairGroups := groupIds } :: l₂ } ∧
      Reported key ids (t.memory []) { c with portPairGroups := groupIds } answer := by
  have hends : Ends ids .never (Engine.updateChain chain groups) s _ _ :=
    Ends.updateChain h.valid.sound hupdate
  obtain ⟨t, ⟨_, -, hpossible, -⟩ | ⟨answer, hrun, rfl, rfl⟩⟩ := hends.calm_cases
  · exact absurd hpossible Faults.not_possible_never
  · refine ⟨_, _, hrun, rfl, (h.after (.updateChain chain groups) hrun).reported ?_⟩
    exact List.mem_append_right _ List.mem_cons_self

theorem calm_updateChain_refused (hs : s.Sound ids)
    (h : ¬ ∃ l₁ l₂ c groupIds, Regroupable s chain groups l₁ l₂ c groupIds) :
    ∃ e, calm ids (updateChain chain groups) s = (.error e, s.memory []) := by
  have hends : Ends ids .never (updateChain chain groups) s _ _ := Ends.updateChain_refused hs h
  obtain ⟨t, ⟨e, hrun, rfl⟩ | ⟨_, -, hnever⟩⟩ := hends.calm_cases
  · exact ⟨e, hrun⟩
  · exact absurd hnever not_false

/-- A chain is registered, or given other groups, if and only if all groups are stored and no other
chain lists one of them; else nothing is changed. -/
theorem chains_registered_and_regrouped (hids : Function.Injective ids)
    (hblank : ∀ n, Text.blank (ids n) = false) {m : Memory} (hm : Reachable key ids m)
    (hcalm : m.failures = []) (groups : List NetworkElement) (hsome : groupIds ≠ [])
    (hnamed : groups.map (·.elementId) = groupIds.map some)
    (hvisible : ∀ id ∈ groupIds, Text.blank id = false) :
    ∃ v : Inventory, m.collections = v.collections ∧
      (v.Chainable groupIds none → ∃ answer n c,
        (Request.registerChain groups).run key ids m = (.ok answer, n) ∧
          c = Kind.portChain.created (ids (m.drawn + 1)) m.project m.nextChain
            { description := some description, portPairGroups := groupIds } ∧
          (∀ d ∈ v.portChains, d.id ≠ c.id) ∧
          n = { m with
            collections := { v with portChains := v.portChains ++ [c] }.collections
            nextChain := m.nextChain + 1
            drawn := m.drawn + 1 } ∧
          Reported key ids n c answer) ∧
      (¬ v.Chainable groupIds none → ∃ e,
        (Request.registerChain groups).run key ids m = (.error e, m)) ∧
      ∀ chain : Element,
        (∀ l₁ c l₂, v.portChains = l₁ ++ c :: l₂ → c.id = chain.id → v.Chainable groupIds c.id →
          ∃ answer n, (Request.updateChain chain groups).run key ids m = (.ok answer, n) ∧
            n = { m with collections := { v with
              portChains := l₁ ++ { c with portPairGroups := groupIds } :: l₂ }.collections } ∧
            Reported key ids n { c with portPairGroups := groupIds } answer) ∧
        ((∀ c ∈ v.portChains, c.id = chain.id → ¬ v.Chainable groupIds c.id) → ∃ e,
          (Request.updateChain chain groups).run key ids m = (.error e, m)) := by
  obtain ⟨s, rfl, h⟩ := hm.calm_orderly hids hblank hcalm
  have hs := h.valid.sound
  have hgroupIds := Guard.groupIds_eq_ok hnamed hvisible
  have hgroups : groups ≠ [] := by
    rintro rfl
    exact hsome (List.map_eq_nil_iff.1 hnamed.symm)
  have hlisted : Guard.requireSome groups "Port Pair Group update member list" = .ok () :=
    if_neg (by simpa using hgroups)
  refine ⟨s.toInventory, rfl, fun hchainable ↦ ?_, fun hnot ↦ ?_, fun chain ↦
    ⟨fun l₁ c l₂ hsplit hid hchainable ↦ ?_, fun hnone ↦ ?_⟩⟩
  · obtain ⟨answer, t, hrun, rfl, hreported⟩ := h.registerChain hgroups hgroupIds hchainable rfl
    refine ⟨answer, _, _, hrun, rfl, fun d hd hsame ↦ ?_, rfl, hreported⟩
    exact hs.fresh hids .portChain (by decide) d hd (Kind.key_eq hsame)
  · obtain ⟨e, hrun⟩ := Atomic.registerChain_refused hs hgroups hgroupIds hnot
    exact ⟨e, hrun.run_eq⟩
  · have hc : c ∈ s.get .portChain := by
      change c ∈ s.portChains
      simp [hsplit]
    have hnamed : Guard.requireId chain "Port Pair Group Service Function Chain Id" =
        .ok (Kind.portChain.key c) := Guard.requireText_eq_ok_iff.2
      ⟨hid.symm.trans (hs.idOf_eq .portChain hc), h.visible_key .portChain (by decide) hc⟩
    obtain ⟨answer, t, hrun, rfl, hreported⟩ :=
      h.updateChain ⟨hnamed, hlisted, hgroupIds, hsplit, hchainable⟩
    exact ⟨answer, _, hrun, rfl, hreported⟩
  · refine calm_updateChain_refused hs ?_
    rintro ⟨l₁, l₂, c, groupIds', hupdate⟩
    have hc : c ∈ s.get .portChain := by
      change c ∈ s.portChains
      simp [hupdate.split]
    -- the groups that the update looks up are those whose ids were given
    obtain rfl : groupIds' = groupIds := Except.ok.inj (hupdate.named.symm.trans hgroupIds)
    refine hnone c hc ?_ hupdate.chainable
    exact (hs.idOf_eq .portChain hc).trans (Guard.requireText_eq_ok_iff.1 hupdate.chainId).1.symm

namespace Sample

def spare : Memory :=
  history defaultKey numberedId (seeded numberedId "project" ports)
    (events ++ [.request (.registerInspectionPort reversed)])

def spareTwice : List NetworkElement :=
  [{ elementId := some (numberedId 5) }, { elementId := some (numberedId 5) }]

end Sample

theorem sample_spare_chained :
    Function.Injective numberedId ∧ (∀ n, Text.blank (numberedId n) = false) ∧
      Reachable defaultKey numberedId Sample.spare ∧ Sample.spare.failures = [] ∧
      [numberedId 5, numberedId 5] ≠ [] ∧
      Sample.spareTwice.map (·.elementId) = [numberedId 5, numberedId 5].map some ∧
      (∀ id ∈ [numberedId 5, numberedId 5], Text.blank id = false) ∧
      (∃ answer n,
        (Request.registerChain Sample.spareTwice).run defaultKey numberedId Sample.spare =
          (.ok answer, n) ∧ answer.elementId = some (numberedId 6)) ∧
      ∃ c answer n, c.id = some (numberedId 3) ∧ c.portPairGroups = [numberedId 5, numberedId 5] ∧
        (Request.updateChain Sample.chain Sample.spareTwice).run defaultKey numberedId
          Sample.spare = (.ok answer, n) ∧ Reported defaultKey numberedId n c answer := by
  have hreachable : Reachable defaultKey numberedId Sample.spare :=
    ⟨"project", Sample.ports, _, by decide, rfl⟩
  have hvisible : ∀ id ∈ [numberedId 5, numberedId 5], Text.blank id = false := by
    simp [numberedId_not_blank]
  obtain ⟨v, hv, hregister, -, hupdate⟩ := chains_registered_and_regrouped
    numberedId_injective numberedId_not_blank hreachable rfl Sample.spareTwice
    (List.cons_ne_nil _ _) rfl hvisible
  have hgroups : v.portPairGroups =
      [Kind.portPairGroup.created (numberedId 2) "project" 1 (newGroup (numberedId 1)),
        Kind.portPairGroup.created (numberedId 5) "project" 2 (newGroup (numberedId 4))] :=
    Kind.portPairGroup.written_injective ((congrArg Collections.portPairGroups hv).symm.trans rfl)
  have hchains : v.portChains = [Kind.portChain.created (numberedId 3) "project" 1
      { description := some description, portPairGroups := [numberedId 2] }] :=
    Kind.portChain.written_injective ((congrArg Collections.portChains hv).symm.trans rfl)
  have hchainable (allowed : Option String) :
      v.Chainable [numberedId 5, numberedId 5] allowed := by
    refine ⟨fun id hid ↦ ⟨?_, ?_⟩, fun id hid c hc _ ↦ ?_⟩
    all_goals obtain rfl : id = numberedId 5 := by simpa using hid
    · decide
    · have hmem : Kind.portPairGroup.created (numberedId 5) "project" 2 (newGroup (numberedId 4)) ∈
          v.get .portPairGroup := by
        rw [Inventory.get, hgroups]
        exact List.mem_cons_of_mem _ List.mem_cons_self
      exact ⟨_, hmem, rfl⟩
    · rw [hchains] at hc
      rw [List.mem_singleton.1 hc]
      decide
  obtain ⟨answer, n, c, hrun, rfl, -, -, hreported⟩ := hregister (hchainable none)
  obtain ⟨answer', n', hrun', -, hreported'⟩ :=
    (hupdate Sample.chain).1 [] _ [] hchains rfl (hchainable _)
  exact ⟨numberedId_injective, numberedId_not_blank, hreachable, rfl, List.cons_ne_nil _ _, rfl,
    hvisible, ⟨answer, n, hrun, hreported.told.elementId⟩, _, answer', n', rfl, rfl, hrun',
    hreported'⟩

end TrafficSteering
