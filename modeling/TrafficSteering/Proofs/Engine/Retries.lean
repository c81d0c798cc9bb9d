import TrafficSteering.Proofs.Engine.Histories

namespace TrafficSteering

open Engine HookTag

variable {key : String} {ids : Nat → String} {faults : Faults} {s t u w : Service} {α : Type}
  {a : α} {m : Memory} {p : Program α} {hookId : String}

/-- Where an attempt at the program fails, the program still comes to this outcome. -/
def Resumes (ids : Nat → String) (p : Program α) (s : Service) (a : α) (m : Memory) : Prop :=
  Ends ids .honest p s (fun _ t ↦ calm ids p t = (.ok a, m)) fun _ _ ↦ True

theorem Resumes.registerChain (hs : s.Sound ids) (hids : Function.Injective ids)
    {groups : List NetworkElement} {a : ServiceFunctionChain}
    (hcalm : calm ids (registerChain groups) s = (.ok a, m)) :
    Resumes ids (registerChain groups) s a m := by
  refine Ends.read (.lift _) (fun _ ↦ hcalm) fun _ _ ↦ ?_
  refine Ends.read (.lift _) (fun _ ↦ hcalm) fun groupIds _ ↦ ?_
  obtain ⟨r, hr, -⟩ := Atomic.validateGroups hs groupIds none
  refine Ends.read (hr _) (fun _ ↦ hcalm) fun _ _ ↦ ?_
  exact Ends.pass (.create hs hids .portChain (by decide) _) (fun _ _ _ ↦ hcalm)
    (Ends.done trivial)

theorem Resumes.deleteChain (hs : s.Sound ids) {chain : Element}
    (hcalm : calm ids (deleteChain chain) s = (.ok (), m)) :
    Resumes ids (deleteChain chain) s () m := by
  refine Ends.read (.lift _) (fun _ ↦ hcalm) fun chainId hid ↦ ?_
  obtain ⟨r, hr, -⟩ := Atomic.requireChain ids s chainId
  refine Ends.read (hr _) (fun _ ↦ hcalm) fun _ _ ↦ ?_
  refine Ends.deleteRaw hs (Guard.ne_of_requireText hid) (fun _ _ _ ↦ hcalm) ?_ ?_ ?_ ?_
  · intro code text _
    split
    · exact Ends.done trivial
    · exact Ends.fail hcalm
  · exact fun _ _ ↦ Ends.fail hcalm
  · exact fun _ _ ↦ Ends.fail hcalm
  · exact fun _ _ _ _ _ _ ↦ Ends.done trivial

structure Regroupable (s : Service) (chain : Element) (groups : List NetworkElement)
    (l₁ l₂ : List PortChain) (c : PortChain) (groupIds : List String) : Prop where
  chainId : Guard.requireId chain "Port Pair Group Service Function Chain Id" =
    .ok (Kind.portChain.key c)
  listed : Guard.requireSome groups "Port Pair Group update member list" = .ok ()
  named : Guard.groupIds groups = .ok groupIds
  split : s.portChains = l₁ ++ c :: l₂
  chainable : s.Chainable groupIds c.id

theorem Ends.updateChain (hs : s.Sound ids) {chain : Element} {groups : List NetworkElement}
    {l₁ l₂ : List PortChain} {c : PortChain} {groupIds : List String}
    (h : Regroupable s chain groups l₁ l₂ c groupIds) :
    Ends ids faults (updateChain chain groups) s
      (fun _ t ↦ faults.Possible ∧
        (t = s ∨ t = s.put .portChain (l₁ ++ { c with portPairGroups := [] } :: l₂)))
      fun a t ↦ a = Lookup.shallowChain { c with portPairGroups := groupIds } ∧
        t = s.put .portChain (l₁ ++ { c with portPairGroups := groupIds } :: l₂) := by
  have hkey := Guard.ne_of_requireText h.chainId
  have hsplit : s.get .portChain = l₁ ++ c :: l₂ := h.split
  have hearly : faults.Possible → ∀ e : Error, e.isPartial = false → faults.Possible ∧
      (s = s ∨ s = s.put .portChain (l₁ ++ { c with portPairGroups := [] } :: l₂)) :=
    fun hpossible _ _ ↦ ⟨hpossible, .inl rfl⟩
  obtain ⟨r, hvalidate, hchainable⟩ :=
    Atomic.validateGroups hs groupIds (some (Kind.portChain.key c))
  have hid : c.id = some (Kind.portChain.key c) := hs.idOf_eq .portChain (by simp [hsplit])
  rw [hchainable.2 (hid ▸ h.chainable)] at hvalidate
  rw [Engine.updateChain, h.chainId, h.listed, h.named]
  refine pass (.lift _) hearly (pass (.lift _) hearly (pass (.lift _) hearly ?_))
  refine pass (.requireChain_stored hs h.split hkey) hearly (pass (hvalidate _) hearly ?_)
  refine bind (setGroups hs h.split []) ?_ ?_
  · rintro e t ⟨rfl, -, hpossible | hblank⟩
    · exact ⟨hpossible, .inl rfl⟩
    · exact absurd hblank hkey
  rintro _ u ⟨rfl, rfl⟩
  have hcleared : (s.put .portChain (l₁ ++ { c with portPairGroups := [] } :: l₂)).Sound ids :=
    hs.amend .portChain hsplit rfl
  refine bindMapped (setGroups hcleared rfl groupIds) ?_ ?_
  · rintro e t ⟨rfl, -, hpossible | hblank⟩
    · exact ⟨hpossible, .inr rfl⟩
    · exact absurd hblank hkey
  · rintro _ t ⟨rfl, rfl⟩
    exact done ⟨rfl, Service.put_put _ _ _ _⟩

theorem Ends.updateChain_refused (hs : s.Sound ids) {chain : Element} {groups : List NetworkElement}
    (h : ¬ ∃ l₁ l₂ c groupIds, Regroupable s chain groups l₁ l₂ c groupIds) :
    Ends ids faults (Engine.updateChain chain groups) s (fun _ t ↦ t = s) fun _ _ ↦ False := by
  refine read (.lift _) (fun _ ↦ rfl) fun chainId hid ↦ ?_
  refine read (.lift _) (fun _ ↦ rfl) fun _ hlisted ↦ ?_
  refine read (.lift _) (fun _ ↦ rfl) fun groupIds hnamed ↦ ?_
  obtain ⟨r, hr, hrequired⟩ := Atomic.requireChain ids s chainId
  refine read (hr _) (fun _ ↦ rfl) fun c hc ↦ ?_
  obtain ⟨r', hr', hchainable⟩ := Atomic.validateGroups hs groupIds (some chainId)
  refine read (hr' _) (fun _ ↦ rfl) fun _ hok ↦ absurd ?_ h
  obtain ⟨rfl, l₁, l₂, hsplit⟩ := Inventory.find?_eq_some ((hrequired c).1 hc).2
  have hcid : c.id = some (Kind.portChain.key c) := hs.idOf_eq .portChain (by simp [hsplit])
  exact ⟨l₁, l₂, c, groupIds, hid, hlisted, hnamed, hsplit, hcid ▸ hchainable.1 hok⟩

theorem Regroupable.of_calm (hs : s.Sound ids) {chain : Element} {groups : List NetworkElement}
    {a : ServiceFunctionChain} (hcalm : calm ids (updateChain chain groups) s = (.ok a, m)) :
    ∃ l₁ l₂ c groupIds, Regroupable s chain groups l₁ l₂ c groupIds := by
  by_contra h
  have hrefused : Ends ids .never _ s _ _ := Ends.updateChain_refused hs h
  obtain ⟨_, -, hnever⟩ := hrefused.calm_ok hcalm
  exact hnever

theorem Resumes.updateChain (hs : s.Sound ids) {chain : Element} {groups : List NetworkElement}
    {a : ServiceFunctionChain} (hcalm : calm ids (updateChain chain groups) s = (.ok a, m)) :
    Resumes ids (updateChain chain groups) s a m := by
  obtain ⟨l₁, l₂, c, groupIds, h⟩ := Regroupable.of_calm hs hcalm
  have hends : Ends ids .honest _ s _ _ := Ends.updateChain hs h
  obtain ⟨t, rfl, rfl, rfl⟩ := hends.calm_ok hcalm
  refine hends.mono ?_ fun _ _ _ ↦ trivial
  rintro e u ⟨-, rfl | rfl⟩
  · exact hcalm
  · have hcleared : Regroupable (s.put .portChain (l₁ ++ { c with portPairGroups := [] } :: l₂))
        chain groups l₁ l₂ { c with portPairGroups := [] } groupIds :=
      { h with split := rfl, chainable := h.chainable.clear h.split }
    have hsound : (s.put .portChain (l₁ ++ { c with portPairGroups := [] } :: l₂)).Sound ids :=
      hs.amend .portChain h.split rfl
    have hagain : Ends ids .never _ _ _ _ := Ends.updateChain hsound hcleared
    obtain ⟨t, ⟨e, -, hpossible, -⟩ | ⟨a, hrun, rfl, rfl⟩⟩ := hagain.calm_cases
    · exact absurd hpossible Faults.not_possible_never
    · rw [hrun, Service.put_put]

theorem Ends.placePair (hs : s.Sound ids) (hids : Function.Injective ids)
    {group : Option PortPairGroup} (hgroup : ∀ g ∈ group, g ∈ s.portPairGroups) (pairId : String) :
    Ends ids faults (placePair group pairId) s (fun _ t ↦ t = s) fun _ _ ↦ True := by
  cases group with
  | none =>
    refine (Atomic.create hs hids .portPairGroup (by decide) (newGroup pairId)).mono ?_
      fun _ _ _ ↦ trivial
    rintro e t (⟨⟨⟩, -⟩ | ⟨-, -, rfl⟩)
    rfl
  | some g =>
    obtain ⟨l₁, l₂, hsplit⟩ := List.append_of_mem (hgroup g rfl)
    exact (joinGroup hs hsplit pairId).mono (fun _ _ h ↦ h.1) fun _ _ _ ↦ trivial

/-- A pair that was created by an attempt is found by the next one. -/
theorem registerInspectionPort_again (hs : s.Sound ids) (hids : Function.Injective ids)
    {port : InspectionPort} {ingress egress : String} {a : InspectionPort}
    (hingress : Guard.requireText port.ingressId "Ingress port" = .ok ingress)
    (hegress : Guard.requireText port.egressId "Egress port" = .ok egress)
    (hnone : s.pairByPorts (some ingress) (some egress) = none)
    (hcalm : calm ids (registerInspectionPort port) s = (.ok a, m)) :
    calm ids (registerInspectionPort port) (s.add ids .portPair (newPair ingress egress)) =
      (.ok a, m) := by
  -- the new pair comes last, and none before it has its ends
  have hfound : (s.add ids .portPair (newPair ingress egress)).pairByPorts (some ingress)
      (some egress) = some (s.issue ids .portPair (newPair ingress egress)) := by
    have hadd : (s.add ids .portPair (newPair ingress egress)).portPairs =
        s.portPairs ++ [s.issue ids .portPair (newPair ingress egress)] := rfl
    rw [Inventory.pairByPorts] at hnone
    rw [Inventory.pairByPorts, hadd, List.find?_append, hnone, Option.none_or]
    simp [Service.issue, Kind.created, newPair]
  have hcreate : Atomic ids .never (findOrCreatePair ingress egress) s _ _ :=
    .findOrCreatePair hs hids ingress egress
  have hfind : Atomic ids .never (findOrCreatePair ingress egress)
      (s.add ids .portPair (newPair ingress egress)) _ _ :=
    .findOrCreatePair (hs.add hids .portPair (by decide) _) hids ingress egress
  rw [hnone] at hcreate
  rw [hfound] at hfind
  rw [registerInspectionPort, hingress, hegress] at hcalm ⊢
  obtain ⟨_, ⟨⟩, hcalm⟩ := Atomic.calm_bind (.lift _) hcalm
  obtain ⟨_, ⟨⟩, hcalm⟩ := Atomic.calm_bind (.lift _) hcalm
  obtain ⟨requested, hrequested, hcalm⟩ := Atomic.calm_bind (.requestedGroup s port) hcalm
  obtain ⟨_, ⟨⟩, hcalm⟩ := hcreate.calm_bind hcalm
  refine (calm_step (.lift _)).trans ((calm_step (.lift _)).trans ?_)
  have hagain : Atomic ids .never (requestedGroup port)
      (s.add ids .portPair (newPair ingress egress)) (.ok requested)
      (s.add ids .portPair (newPair ingress egress)) := by
    rw [← hrequested]
    exact .requestedGroup _ port
  refine (calm_step hagain).trans ((calm_step hfind).trans ?_)
  obtain ⟨_, ⟨⟩, hcalm⟩ := Atomic.calm_bind (.groupOfPair _ _) hcalm
  refine (calm_step (.groupOfPair _ _)).trans ?_
  cases hgroup : (s.add ids .portPair (newPair ingress egress)).groupOfPair
      ((s.issue ids .portPair (newPair ingress egress)).id.getD "") with
  | some g =>
    rw [hgroup] at hcalm
    exact hcalm
  | none =>
    rw [hgroup] at hcalm
    exact calm_mapError_bind.2 (calm_mapError_bind.1 hcalm)

theorem Resumes.registerInspectionPort (hs : s.Sound ids) (hids : Function.Injective ids)
    {port : InspectionPort} {a : InspectionPort}
    (hcalm : calm ids (registerInspectionPort port) s = (.ok a, m)) :
    Resumes ids (registerInspectionPort port) s a m := by
  refine Ends.read (.lift _) (fun _ ↦ hcalm) fun ingress hingress ↦ ?_
  refine Ends.read (.lift _) (fun _ ↦ hcalm) fun egress hegress ↦ ?_
  refine Ends.read (.requestedGroup s port) (fun _ ↦ hcalm) fun requested hrequested ↦ ?_
  obtain ⟨pair, created, u, hpair, hsu, hgroups, hagain⟩ : ∃ pair created, ∃ u : Service,
      Atomic ids .honest (findOrCreatePair ingress egress) s (.ok (pair, created)) u ∧
        u.Sound ids ∧ u.portPairGroups = s.portPairGroups ∧
        calm ids (Engine.registerInspectionPort port) u = (.ok a, m) := by
    have hpair : Atomic ids .honest (findOrCreatePair ingress egress) s _ _ :=
      .findOrCreatePair hs hids ingress egress
    cases hfind : s.pairByPorts (some ingress) (some egress) with
    | some pair =>
      rw [hfind] at hpair
      exact ⟨_, _, _, hpair, hs, rfl, hcalm⟩
    | none =>
      rw [hfind] at hpair
      exact ⟨_, _, _, hpair, hs.add hids .portPair (by decide) _, rfl,
        registerInspectionPort_again hs hids hingress hegress hfind hcalm⟩
  refine Ends.pass hpair (fun _ _ _ ↦ hcalm) ?_
  refine Ends.read (.groupOfPair u _) (fun _ ↦ hagain) fun group _ ↦ ?_
  cases group with
  | some g => exact Ends.done trivial
  | none =>
    -- a failure to place the pair leaves the service as it was found here
    have hrequested : ∀ g ∈ requested, g ∈ u.portPairGroups := by
      rintro g rfl
      exact hgroups ▸ requestedGroup_eq_ok hrequested
    refine Ends.bindMapped (Ends.placePair hsu hids hrequested _) ?_ fun _ _ _ ↦ Ends.done trivial
    rintro _ t rfl
    exact hagain

/-- What becomes of the group of a pair that leaves it. -/
inductive Left (pairId : String) (s : Service) : Service → Prop
  | emptied {l₁ l₂ : List PortPairGroup} {g : PortPairGroup}
      (h : s.portPairGroups = l₁ ++ g :: l₂) (hlisted : pairId ∈ g.portPairs)
      (hlast : g.portPairs.filter (· ≠ pairId) = []) :
      Left pairId s (s.put .portPairGroup (l₁ ++ l₂))
  | kept {l₁ l₂ : List PortPairGroup} {g : PortPairGroup}
      (h : s.portPairGroups = l₁ ++ g :: l₂) (hlisted : pairId ∈ g.portPairs)
      (hlast : g.portPairs.filter (· ≠ pairId) ≠ []) :
      Left pairId s (s.put .portPairGroup
        (l₁ ++ { g with portPairs := g.portPairs.filter (· ≠ pairId) } :: l₂))

namespace Left

variable {pairId : String}

theorem frame (h : Left pairId s t) : t.portPairs = s.portPairs := by cases h <;> rfl

theorem sound (h : Left pairId s t) (hs : s.Sound ids) : t.Sound ids := by
  cases h with
  | emptied hsplit => exact hs.remove hsplit
  | kept hsplit => exact hs.amend .portPairGroup hsplit rfl

theorem free (h : Left pairId s t) (hl : s.Linked) : t.Free pairId .portPair := by
  cases h with
  | emptied hsplit hlisted => exact hl.others hsplit hlisted
  | @kept l₁ l₂ g hsplit hlisted =>
    exact forall_mem_amend (hl.others hsplit hlisted) (by simp)

theorem unique (h : Left pairId s t) (h' : Left pairId s u) (hs : s.Sound ids) (hl : s.Linked) :
    t = u := by
  have hsame {l₁ l₂ l₁' l₂' : List PortPairGroup} {g g' : PortPairGroup}
      (hsplit : s.portPairGroups = l₁ ++ g :: l₂) (hlisted : pairId ∈ g.portPairs)
      (hsplit' : s.portPairGroups = l₁' ++ g' :: l₂') (hlisted' : pairId ∈ g'.portPairs) :
      l₁' = l₁ ∧ g' = g ∧ l₂' = l₂ := by
    cases hl.eq_of_listed (by simp [hsplit]) (by simp [hsplit']) hlisted hlisted'
    have hget : s.get .portPairGroup = l₁ ++ g :: l₂ := hsplit
    exact hs.split_unique hget hsplit' rfl
  cases h with
  | emptied hsplit hlisted hlast =>
    cases h' with
    | emptied hsplit' hlisted' =>
      obtain ⟨rfl, -, rfl⟩ := hsame hsplit hlisted hsplit' hlisted'
      rfl
    | kept hsplit' hlisted' hlast' =>
      obtain ⟨-, rfl, -⟩ := hsame hsplit hlisted hsplit' hlisted'
      exact absurd hlast hlast'
  | kept hsplit hlisted hlast =>
    cases h' with
    | emptied hsplit' hlisted' hlast' =>
      obtain ⟨-, rfl, -⟩ := hsame hsplit hlisted hsplit' hlisted'
      exact absurd hlast' hlast
    | kept hsplit' hlisted' =>
      obtain ⟨rfl, rfl, rfl⟩ := hsame hsplit hlisted hsplit' hlisted'
      rfl

end Left

theorem Ends.leaveGroup_left (hs : s.Sound ids) {g : PortPairGroup} (hg : g ∈ s.portPairGroups)
    {pairId : String} (hlisted : pairId ∈ g.portPairs) (hfeigns : ¬ faults.Feigns .portPairGroup) :
    Ends ids faults (Engine.leaveGroup g pairId) s (fun _ t ↦ t = s) fun _ t ↦ Left pairId s t := by
  obtain ⟨l₁, l₂, hsplit⟩ := List.append_of_mem hg
  refine (Ends.leaveGroup hs hsplit).mono (fun _ _ h ↦ h.1) fun _ t h ↦ ?_
  by_cases hlast : g.portPairs.filter (· ≠ pairId) = []
  · rw [if_pos hlast] at h
    obtain ⟨k₁, r, k₂, hk, hkey, -, rfl⟩ := h.of_stored (hs.find?_of_mem .portPairGroup hg) hfeigns
    have hget : s.get .portPairGroup = l₁ ++ g :: l₂ := hsplit
    obtain ⟨rfl, -, rfl⟩ := hs.split_unique hget hk hkey
    exact .emptied hsplit hlisted hlast
  · rw [if_neg hlast] at h
    exact h ▸ .kept hsplit hlisted hlast

/-- A pair that has left its group has only to be deleted. -/
theorem removeInspectionPort_again (hs : s.Sound ids) (hl : s.Linked) {port : InspectionPort}
    {pair : PortPair} {g : PortPairGroup} (hpair : s.pairOf port = some pair)
    (hgroup : s.groupOfPair (pair.id.getD "") = some g) (hu : Left (pair.id.getD "") s u)
    (hcalm : calm ids (removeInspectionPort port) s = (.ok (), m)) :
    calm ids (removeInspectionPort port) u = (.ok (), m) := by
  obtain ⟨hg, hlisted⟩ := Inventory.groupOfPair_eq_some hgroup
  have hread : Atomic ids .never (Lookup.pairOf port) s (.ok (some pair)) s :=
    hpair ▸ .pairOf s port
  have hscan : Atomic ids .never (Lookup.groupOfPair (pair.id.getD "")) s (.ok (some g)) s :=
    hgroup ▸ .groupOfPair s _
  obtain ⟨_, ⟨⟩, hcalm⟩ := hread.calm_bind hcalm
  obtain ⟨_, ⟨⟩, hcalm⟩ := hscan.calm_bind hcalm
  obtain ⟨_, v, hv, hcalm⟩ :=
    (Ends.leaveGroup_left hs hg hlisted (Faults.not_feigns_never _)).calm_bind hcalm
  cases hv.unique hu hs hl
  have hread : Atomic ids .never (Lookup.pairOf port) u (.ok (some pair)) u := by
    have hpairs : u.pairOf port = s.pairOf port := Inventory.pairOf_congr hu.frame port
    rw [← hpair, ← hpairs]
    exact .pairOf u port
  have hscan : Atomic ids .never (Lookup.groupOfPair (pair.id.getD "")) u (.ok none) u := by
    rw [← Inventory.groupOfPair_eq_none.2 (hu.free hl)]
    exact .groupOfPair u _
  refine (calm_step hread).trans ((calm_step hscan).trans ?_)
  exact calm_mapError.2 (calm_mapError.1 hcalm)

theorem Resumes.removeInspectionPort (hs : s.Sound ids) (hl : s.Linked) {port : InspectionPort}
    (hcalm : calm ids (removeInspectionPort port) s = (.ok (), m)) :
    Resumes ids (removeInspectionPort port) s () m := by
  refine Ends.read (.pairOf s port) (fun _ ↦ hcalm) fun found hfound ↦ ?_
  cases found with
  | none => exact Ends.done trivial
  | some pair =>
    refine Ends.read (.groupOfPair s _) (fun _ ↦ hcalm) fun group hgroup ↦ ?_
    cases group with
    | none =>
      refine .mapError ((Ends.delete hs .portPair _).mono ?_ fun _ _ _ ↦ trivial)
      rintro e t ⟨rfl, -⟩
      exact hcalm
    | some g =>
      obtain ⟨hg, hlisted⟩ := Inventory.groupOfPair_eq_some (Except.ok.inj hgroup)
      refine Ends.bind (Ends.leaveGroup_left hs hg hlisted (Faults.not_feigns_honest _)) ?_
        fun _ u (hu : Left _ s u) ↦ ?_
      · rintro _ t rfl
        exact hcalm
      refine .mapError ((Ends.delete (hu.sound hs) .portPair _).mono ?_ fun _ _ _ ↦ trivial)
      rintro e t ⟨rfl, -⟩
      exact removeInspectionPort_again hs hl (Except.ok.inj hfound) (Except.ok.inj hgroup) hu hcalm

end TrafficSteering
