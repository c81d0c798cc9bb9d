import TrafficSteering.Proofs.Engine.HookStages

namespace TrafficSteering

open Engine HookTag

variable {key : String} {ids : Nat → String} {s t u w : Service} {stage : Nat → Service}
  {i j : Nat} {port : InspectionPort} {pair p : PortPair} {g : PortPairGroup}

def PortPair.NamedBy (p : PortPair) (port : InspectionPort) : Prop :=
  (∃ id, id ≠ "" ∧ p.id = some id ∧ port.elementId = some id) ∨
    (p.ingress, p.egress) = (port.ingressId, port.egressId) ∧
      (port.ingressId ≠ none ∨ port.egressId ≠ none)

theorem single_pairByPorts {ingress egress : Option String} :
    (Lookup.pairByPorts ingress egress).Single :=
  (Gateway.single_list .portPair []).bind fun _ ↦ Option.some_ne_none _

theorem single_groupOfPair {pairId : String} : (Lookup.groupOfPair pairId).Single :=
  (Gateway.single_list .portPairGroup []).bind fun _ ↦ Option.some_ne_none _

/-- Where pairs are only ever removed, a look-up finds one that is named, or there is none any
more. -/
def Sought (stage : Nat → Service) (port : InspectionPort) (found : Option PortPair) (j : Nat) :
    Prop :=
  (∀ p ∈ found, p ∈ (stage 0).portPairs ∧ p.NamedBy port) ∧
    (found = none → ∀ p ∈ (stage j).portPairs, ¬ p.NamedBy port)

theorem finds_pairByPorts (hpairs : ∀ i j, i ≤ j → (stage j).portPairs ⊆ (stage i).portPairs)
    (hid : ∀ p ∈ (stage i).portPairs, ∀ id, id ≠ "" → p.id = some id → port.elementId ≠ some id) :
    Finds ids stage (Sought stage port)
      (if port.ingressId.isNone && port.egressId.isNone then pure none
        else Lookup.pairByPorts port.ingressId port.egressId) i := by
  split
  · rename_i hnone
    refine Climbs.value fun j hj ↦ ⟨none, rfl, by simp, ?_⟩
    rintro - p hp (⟨id, hne, hp', hport⟩ | ⟨-, hsome⟩)
    · exact hid p (hpairs i j hj hp) id hne hp' hport
    · simp_all
  · rename_i hsome
    refine Abides.single single_pairByPorts fun j hj ↦
      ⟨_, j, (Atomic.pairByPorts _ _ _).run_eq, Nat.le_refl j, fun k hk ↦ ⟨_, rfl, ?_, ?_⟩⟩
    · intro p hp
      have hends := List.find?_some hp
      refine ⟨hpairs 0 j (Nat.zero_le j) (List.mem_of_find?_eq_some hp), .inr ⟨?_, ?_⟩⟩
      · simp_all
      · by_contra hboth
        simp_all
    · rintro hnone p hp (⟨id, hne, hp', hport⟩ | ⟨hends, -⟩)
      · exact hid p (hpairs i k (Nat.le_trans hj hk) hp) id hne hp' hport
      · exact Inventory.pairByPorts_eq_none hnone p (hpairs j k hk hp) hends

theorem finds_pairOf (hsound : ∀ j, (stage j).Sound ids)
    (hpairs : ∀ i j, i ≤ j → (stage j).portPairs ⊆ (stage i).portPairs) (i : Nat) :
    Finds ids stage (Sought stage port) (Lookup.pairOf port) i := by
  rw [Lookup.pairOf]
  cases hid : port.elementId with
  | none =>
    exact finds_pairByPorts hpairs fun p _ id _ _ hport ↦ by cases hid.symm.trans hport
  | some id =>
    by_cases hblank : id = ""
    · simp only [hblank, if_true]
      refine finds_pairByPorts hpairs fun p _ id' hne _ hport ↦ ?_
      cases hid.symm.trans hport
      exact hne hblank
    · simp only [hblank, if_false]
      refine Climbs.read (Gateway.single_get hblank)
        (fun j _ ↦ Atomic.get_of_ne _ .portPair hblank) fun j _ ↦ ?_
      cases hfind : (stage j).find? .portPair id with
      | some p =>
        obtain ⟨rfl, l₁, l₂, hsplit⟩ := Inventory.find?_eq_some hfind
        have hp : p ∈ (stage j).portPairs := by
          rw [show (stage j).portPairs = _ from hsplit]
          simp
        refine Climbs.value fun k _ ↦ ⟨some p, rfl, ?_, by simp⟩
        rintro _ ⟨⟩
        exact ⟨hpairs 0 j (Nat.zero_le j) hp,
          .inl ⟨_, hblank, (hsound j).idOf_eq .portPair hp, hid⟩⟩
      | none =>
        refine finds_pairByPorts hpairs fun p hp id' _ hp' hport ↦ ?_
        cases hid.symm.trans hport
        exact Inventory.find?_eq_none.1 hfind p hp (Kind.key_eq hp')

theorem Atomic.setPairs (hs : s.Sound ids) {l₁ l₂ : List PortPairGroup} {g : PortPairGroup}
    (h : s.portPairGroups = l₁ ++ g :: l₂) (hid : Kind.portPairGroup.key g ≠ "")
    (pairIds : List String) :
    Atomic ids .never (Gateway.update .portPairGroup (Kind.portPairGroup.key g)
        { g with portPairs := pairIds }) s (.ok { g with portPairs := pairIds })
      (s.put .portPairGroup (l₁ ++ { g with portPairs := pairIds } :: l₂)) := by
  have hupdate : Atomic ids .never (Gateway.update .portPairGroup (Kind.portPairGroup.key g)
      { g with portPairs := pairIds }) s _ _ := update hs .portPairGroup h hid _
  rwa [Kind.amended_portPairs] at hupdate

/-- What a removal of an inspection port goes through: the pair leaves its group, if it is in one,
and then it is deleted. -/
structure PairStages (ids : Nat → String) (pair : PortPair) (s u w : Service) : Prop where
  valid : s.Valid ids
  stored : pair ∈ s.portPairs
  left : s.Free (Kind.portPair.key pair) .portPair ∧ u = s ∨ Left (Kind.portPair.key pair) s u
  unchained : ∀ g ∈ s.portPairGroups, Kind.portPair.key pair ∈ g.portPairs →
    g.portPairs.filter (· ≠ Kind.portPair.key pair) = [] →
      s.Free (Kind.portPairGroup.key g) .portPairGroup
  deleted : Deleted .never .portPair (Kind.portPair.key pair) u w

theorem exists_pairStages (hblank : ∀ n, Text.blank (ids n) = false) (hv : s.Valid ids)
    (hpair : pair ∈ s.portPairs)
    (hunchained : ∀ g ∈ s.portPairGroups, Kind.portPair.key pair ∈ g.portPairs →
      g.portPairs.filter (· ≠ Kind.portPair.key pair) = [] →
        s.Free (Kind.portPairGroup.key g) .portPairGroup) :
    ∃ u w, PairStages ids pair s u w := by
  have hne := hv.sound.id_ne hblank .portPair (by decide) hpair
  obtain ⟨u, hu, hsu, hfree⟩ : ∃ u : Service,
      (s.Free (Kind.portPair.key pair) .portPair ∧ u = s ∨ Left (Kind.portPair.key pair) s u) ∧
        u.Sound ids ∧ u.Free (Kind.portPair.key pair) .portPair := by
    cases hgroup : s.groupOfPair (Kind.portPair.key pair) with
    | none =>
      have hfree := Inventory.groupOfPair_eq_none.1 hgroup
      exact ⟨s, .inl ⟨hfree, rfl⟩, hv.sound, hfree⟩
    | some g =>
      obtain ⟨hg, hlisted⟩ := Inventory.groupOfPair_eq_some hgroup
      obtain ⟨l₁, l₂, hsplit⟩ := List.append_of_mem hg
      obtain ⟨u, hu⟩ : ∃ u, Left (Kind.portPair.key pair) s u := by
        by_cases hlast : g.portPairs.filter (· ≠ Kind.portPair.key pair) = []
        · exact ⟨_, .emptied hsplit hlisted hlast⟩
        · exact ⟨_, .kept hsplit hlisted hlast⟩
      exact ⟨u, .inr hu, hu.sound hv.sound, hu.free hv.linked⟩
  obtain ⟨w, -, hw⟩ := calm_delete hsu hne hfree
  exact ⟨u, w, hv, hpair, hu, hunchained, hw⟩

namespace PairStages

theorem soundAfter (h : PairStages ids pair s u w) : u.Sound ids := by
  rcases h.left with ⟨-, rfl⟩ | hu
  · exact h.valid.sound
  · exact hu.sound h.valid.sound

theorem sound (h : PairStages ids pair s u w) (i : Nat) : (stages s u w w i).Sound ids := by
  have hsw : w.Sound ids := by
    obtain ⟨rfl, -⟩ | ⟨_, _, _, hsplit, -, -, rfl⟩ := h.deleted
    · exact h.soundAfter
    · exact h.soundAfter.remove hsplit
  rcases i with _ | _ | _ | i
  · exact h.valid.sound
  · exact h.soundAfter
  · exact hsw
  · exact hsw

/-- Pairs and groups are all that changes on the way. -/
theorem kept {γ : Type} (f : Service → γ) (hf : ∀ (t : Service) pairs groups,
    f { t with portPairs := pairs, portPairGroups := groups } = f t)
    (h : PairStages ids pair s u w) (i : Nat) : f (stages s u w w i) = f s := by
  have hu : f u = f s := by
    rcases h.left with ⟨-, rfl⟩ | hu
    · rfl
    · cases hu <;> exact hf s _ _
  have hw : f w = f u := by
    obtain ⟨rfl, -⟩ | ⟨_, _, _, -, -, -, rfl⟩ := h.deleted
    · rfl
    · exact hf u _ _
  rcases i with _ | _ | _ | i
  · rfl
  · exact hu
  · exact hw.trans hu
  · exact hw.trans hu

theorem drawn_eq (h : PairStages ids pair s u w) (i : Nat) :
    (stages s u w w i).drawn = s.drawn :=
  h.kept Service.drawn (fun _ _ _ ↦ rfl) i

theorem pairs_eq (h : PairStages ids pair s u w) (hi : i ≤ 1) :
    (stages s u w w i).portPairs = s.portPairs := by
  rcases i with _ | _ | i
  · rfl
  · rcases h.left with ⟨-, rfl⟩ | hu
    · rfl
    · exact hu.frame
  · omega

theorem pairs_subset (h : PairStages ids pair s u w) (i j : Nat) (hij : i ≤ j) :
    (stages s u w w j).portPairs ⊆ (stages s u w w i).portPairs := by
  have hw : w.portPairs ⊆ u.portPairs := by
    obtain ⟨rfl, -⟩ | ⟨l₁, r, l₂, hsplit, -, -, rfl⟩ := h.deleted
    · exact fun p hp ↦ hp
    · have hu : u.portPairs = l₁ ++ r :: l₂ := hsplit
      intro p hp
      have hp : p ∈ l₁ ++ l₂ := hp
      rw [hu]
      grind
  have hlate (k : Nat) : (stages s u w w (k + 2)).portPairs = w.portPairs := by
    cases k <;> rfl
  by_cases hj : j ≤ 1
  · rw [h.pairs_eq hj, h.pairs_eq (Nat.le_trans hij hj)]
    exact fun p hp ↦ hp
  · obtain ⟨k, rfl⟩ := Nat.exists_eq_add_of_le' (Nat.lt_of_not_le hj)
    rw [hlate]
    by_cases hi : i ≤ 1
    · rw [h.pairs_eq hi, ← h.pairs_eq (Nat.le_refl 1)]
      exact hw
    · obtain ⟨n, rfl⟩ := Nat.exists_eq_add_of_le' (Nat.lt_of_not_le hi)
      rw [hlate]
      exact fun p hp ↦ hp

theorem groups_eq (h : PairStages ids pair s u w) (hi : 1 ≤ i) :
    (stages s u w w i).portPairGroups = u.portPairGroups := by
  have hw : w.portPairGroups = u.portPairGroups := by
    obtain ⟨rfl, -⟩ | ⟨_, _, _, -, -, -, rfl⟩ := h.deleted <;> rfl
  rcases i with _ | _ | _ | i
  · omega
  · rfl
  · exact hw
  · exact hw

theorem chains_eq (h : PairStages ids pair s u w) (i : Nat) :
    (stages s u w w i).portChains = s.portChains :=
  h.kept (·.portChains) (fun _ _ _ ↦ rfl) i

theorem free (h : PairStages ids pair s u w) (hi : 1 ≤ i) :
    (stages s u w w i).Free (Kind.portPair.key pair) .portPair := by
  have hu : u.Free (Kind.portPair.key pair) .portPair := by
    rcases h.left with ⟨hfree, rfl⟩ | hu
    · exact hfree
    · exact hu.free h.valid.linked
  exact fun g hg ↦ hu g (h.groups_eq hi ▸ hg)

theorem gone (h : PairStages ids pair s u w) (hi : 2 ≤ i) :
    (stages s u w w i).find? .portPair (Kind.portPair.key pair) = none := by
  have hw := h.deleted.gone h.soundAfter
  rcases i with _ | _ | _ | i
  · omega
  · omega
  · exact hw
  · exact hw

theorem left_of_free (h : PairStages ids pair s u w)
    (hfree : (stages s u w w j).Free (Kind.portPair.key pair) .portPair) :
    stages s u w w (max j 1) = stages s u w w j := by
  rcases j with _ | j
  · rcases h.left with ⟨-, hu⟩ | hu
    · exact hu
    · cases hu with
      | emptied hsplit hlisted => exact absurd hlisted (hfree _ (by simp [stages, hsplit]))
      | kept hsplit hlisted => exact absurd hlisted (hfree _ (by simp [stages, hsplit]))
  · rw [Nat.max_eq_left (by omega)]

theorem calm_deletePair (h : PairStages ids pair s u w)
    (hne : Kind.portPair.key pair ≠ "") (hj : 1 ≤ j) :
    calm ids (Gateway.delete .portPair (Kind.portPair.key pair)) (stages s u w w j) =
      (.ok (), (stages s u w w (max j 2)).memory []) := by
  obtain ⟨x, hrun, hx⟩ := calm_delete (h.sound j) hne (h.free hj)
  rw [hrun]
  by_cases h2 : 2 ≤ j
  · rw [Nat.max_eq_left h2, hx.of_gone (h.sound j) (h.gone h2)]
  · obtain rfl : j = 1 := by omega
    have hsame : w = x := h.deleted.unique hx (h.sound 1) (Faults.not_feigns_never _)
      (Faults.not_feigns_never _)
    rw [← hsame]
    rfl

/-- The last pair leaves its group, which may be gone already. -/
theorem calm_emptied (h : PairStages ids pair s u w) {l₁ l₂ : List PortPairGroup}
    (hsplit : s.portPairGroups = l₁ ++ g :: l₂) (hlisted : Kind.portPair.key pair ∈ g.portPairs)
    (hlast : g.portPairs.filter (· ≠ Kind.portPair.key pair) = [])
    (hne : Kind.portPairGroup.key g ≠ "") (j : Nat) :
    calm ids (Gateway.delete .portPairGroup (Kind.portPairGroup.key g)) (stages s u w w j) =
      (.ok (), (stages s u w w (max j 1)).memory []) := by
  have hget : s.get .portPairGroup = l₁ ++ g :: l₂ := hsplit
  have hfree := h.unchained g (by simp [hsplit]) hlisted hlast
  have hu : u = s.put .portPairGroup (l₁ ++ l₂) := by
    rcases h.left with ⟨hfree, -⟩ | hu
    · exact absurd hlisted (hfree g (by simp [hsplit]))
    · exact hu.unique (.emptied hsplit hlisted hlast) h.valid.sound h.valid.linked
  by_cases hj : j = 0
  · subst hj
    obtain ⟨x, hrun, hx⟩ := calm_delete h.valid.sound hne hfree
    have hx : u = x := by
      obtain ⟨k₁, r, k₂, hk, hkey, -, rfl⟩ :=
        hx.of_stored (h.valid.sound.find?_of_split hget) (Faults.not_feigns_never _)
      obtain ⟨rfl, -, rfl⟩ := h.valid.sound.split_unique hget hk hkey
      exact hu
    exact hx ▸ hrun
  · have hgroups : (stages s u w w j).portPairGroups = l₁ ++ l₂ := by
      rw [h.groups_eq (by omega), hu]
      rfl
    have hgone : (stages s u w w j).find? .portPairGroup (Kind.portPairGroup.key g) = none := by
      obtain ⟨hleft, hright⟩ := h.valid.sound.keys_ne hget
      refine Inventory.find?_eq_none.2 fun x hx ↦ ?_
      have hx : x ∈ l₁ ++ l₂ := hgroups ▸ hx
      exact (List.mem_append.1 hx).elim (hleft x) (hright x)
    have hstill : (stages s u w w j).Free (Kind.portPairGroup.key g) .portPairGroup :=
      fun c hc ↦ hfree c (h.chains_eq j ▸ hc)
    obtain ⟨x, hrun, hx⟩ := calm_delete (h.sound j) hne hstill
    rw [Nat.max_eq_left (by omega), hrun, hx.of_gone (h.sound j) hgone]

theorem calm_kept (h : PairStages ids pair s u w) {l₁ l₂ : List PortPairGroup}
    (hsplit : s.portPairGroups = l₁ ++ g :: l₂) (hlisted : Kind.portPair.key pair ∈ g.portPairs)
    (hlast : g.portPairs.filter (· ≠ Kind.portPair.key pair) ≠ [])
    (hne : Kind.portPairGroup.key g ≠ "") (j : Nat) :
    ∃ a, calm ids (Gateway.update .portPairGroup (Kind.portPairGroup.key g)
        { g with portPairs := g.portPairs.filter (· ≠ Kind.portPair.key pair) })
      (stages s u w w j) = (.ok a, (stages s u w w (max j 1)).memory []) := by
  let kept : PortPairGroup :=
    { g with portPairs := g.portPairs.filter (· ≠ Kind.portPair.key pair) }
  have hu : u = s.put .portPairGroup (l₁ ++ kept :: l₂) := by
    rcases h.left with ⟨hfree, -⟩ | hu
    · exact absurd hlisted (hfree g (by simp [hsplit]))
    · exact hu.unique (.kept hsplit hlisted hlast) h.valid.sound h.valid.linked
  by_cases hj : j = 0
  · subst hj
    exact ⟨_, hu ▸ (Atomic.setPairs h.valid.sound hsplit hne _).run_eq⟩
  · -- the list that is written was read before, but stands in the group already
    have hgroups : (stages s u w w j).portPairGroups = l₁ ++ kept :: l₂ := by
      rw [h.groups_eq (by omega), hu]
      rfl
    have hset : Atomic ids .never (Gateway.update .portPairGroup (Kind.portPairGroup.key kept)
        { kept with portPairs := kept.portPairs }) (stages s u w w j) (.ok kept) _ :=
      .setPairs (h.sound j) hgroups hne kept.portPairs
    rw [Service.put_eq_self .portPairGroup hgroups] at hset
    rw [Nat.max_eq_left (by omega)]
    exact ⟨kept, hset.run_eq⟩

theorem finds_leaveGroup (h : PairStages ids pair s u w)
    (hblank : ∀ n, Text.blank (ids n) = false) (hg : g ∈ s.portPairGroups)
    (hlisted : Kind.portPair.key pair ∈ g.portPairs) (i : Nat) :
    Finds ids (stages s u w w) (fun _ j ↦ 1 ≤ j) (leaveGroup g (Kind.portPair.key pair)) i := by
  have hne : Kind.portPairGroup.key g ≠ "" :=
    h.valid.sound.id_ne hblank .portPairGroup (by decide) hg
  obtain ⟨l₁, l₂, hsplit⟩ := List.append_of_mem hg
  rw [leaveGroup]
  by_cases hlast : g.portPairs.filter (· ≠ Kind.portPair.key pair) = []
  · simp only [hlast, List.isEmpty_nil, if_true]
    exact Abides.single (Gateway.single_delete hne) fun j _ ↦
      ⟨_, _, h.calm_emptied hsplit hlisted hlast hne j, Nat.le_max_left j 1, fun k hk ↦
        ⟨(), rfl, Nat.le_trans (Nat.le_max_right j 1) hk⟩⟩
  · have hsome : (g.portPairs.filter (· ≠ Kind.portPair.key pair)).isEmpty = false := by
      simpa using hlast
    simp only [hsome]
    refine Abides.step (Gateway.single_update hne _) fun j _ ↦ ?_
    obtain ⟨a, hrun⟩ := h.calm_kept hsplit hlisted hlast hne j
    exact ⟨a, max j 1, hrun, Nat.le_max_left j 1, Climbs.value fun k hk ↦
      ⟨(), rfl, Nat.le_trans (Nat.le_max_right j 1) hk⟩⟩

/-- Whatever others have done by then, the removal ends well, with the service as it stays. -/
theorem finds_removeInspectionPort (h : PairStages ids pair s u w)
    (hblank : ∀ n, Text.blank (ids n) = false) (hnamed : pair.NamedBy port)
    (hone : ∀ p ∈ s.portPairs, p.NamedBy port → p = pair) (i : Nat) :
    Finds ids (stages s u w w) (fun _ j ↦ Lasts (stages s u w w) w j) (removeInspectionPort port)
      i := by
  have hne := h.valid.sound.id_ne hblank .portPair (by decide) h.stored
  have hlasts (j : Nat) (hj : 2 ≤ j) : Lasts (stages s u w w) w j := by
    intro k hk
    obtain ⟨n, rfl⟩ := Nat.exists_eq_add_of_le' (Nat.le_trans hj hk)
    cases n <;> rfl
  refine Climbs.bindFound (finds_pairOf h.sound h.pairs_subset i) fun found j hfound ↦ ?_
  cases found with
  | none =>
    -- another client has already deleted the pair
    have hj : 2 ≤ j := by
      by_contra hearly
      have hpairs := h.pairs_eq (i := j) (by omega)
      exact hfound.2 rfl pair (hpairs ▸ h.stored) hnamed
    exact Climbs.value fun k hk ↦ ⟨(), rfl, hlasts k (Nat.le_trans hj hk)⟩
  | some p =>
    obtain ⟨hp, hpnamed⟩ := hfound.1 p rfl
    cases hone p hp hpnamed
    have hdelete (k : Nat) (hk : 1 ≤ k) (b : Bool) (step : String) :
        Finds ids (stages s u w w) (fun _ j ↦ Lasts (stages s u w w) w j)
          ((Gateway.delete .portPair (Kind.portPair.key pair)).afterChanges b step) k := by
      refine Finds.mapFound (Abides.single (Gateway.single_delete hne) fun l hl ↦ ?_) _
      refine ⟨.ok (), max l 2, h.calm_deletePair hne (Nat.le_trans hk hl), Nat.le_max_left l 2, ?_⟩
      exact fun n hn ↦ ⟨(), rfl, hlasts n (Nat.le_trans (Nat.le_max_right l 2) hn)⟩
    refine Abides.step single_groupOfPair fun k _ ↦ ?_
    have hread : Atomic ids .never _ (stages s u w w k) _ _ :=
      .groupOfPair _ (Kind.portPair.key pair)
    cases hgroup : (stages s u w w k).groupOfPair (Kind.portPair.key pair) with
    | none =>
      -- the pair is in no group any more, so only its deletion is left
      have hfree := Inventory.groupOfPair_eq_none.1 hgroup
      rw [hgroup] at hread
      refine ⟨none, max k 1, ?_, Nat.le_max_left k 1, hdelete _ (Nat.le_max_right k 1) _ _⟩
      rw [h.left_of_free hfree]
      exact hread.run_eq
    | some g =>
      obtain ⟨hg, hlisted⟩ := Inventory.groupOfPair_eq_some hgroup
      rw [hgroup] at hread
      -- a group that still lists the pair is met before the first change
      have hfirst : k = 0 := by
        by_contra hlate
        exact h.free (by omega) g hg hlisted
      subst hfirst
      refine ⟨some g, 0, hread.run_eq, Nat.le_refl 0, ?_⟩
      refine Climbs.bindFound (h.finds_leaveGroup hblank hg hlisted 0) fun _ l hl ↦ ?_
      exact hdelete l hl _ _

end PairStages

theorem finds_pairOf_still (hs : s.Sound ids) (port : InspectionPort) (i : Nat) :
    Finds ids (fun _ ↦ s) (Sought (fun _ ↦ s) port) (Lookup.pairOf port) i :=
  finds_pairOf (fun _ ↦ hs) (fun _ _ _ _ hp ↦ hp) i

theorem climbs_unnamed (hs : s.Sound ids) (hnone : ∀ p ∈ s.portPairs, ¬ p.NamedBy port) (i : Nat) :
    Climbs ids (fun _ ↦ s) (fun r _ ↦ r = .ok ()) (removeInspectionPort port) i := by
  refine Climbs.bindFound (finds_pairOf_still hs port i) fun found j hfound ↦ ?_
  cases found with
  | none => exact Climbs.value fun k hk ↦ rfl
  | some p =>
    obtain ⟨hp, hnamed⟩ := hfound.1 p rfl
    exact absurd hnamed (hnone p hp)

theorem climbs_chained (hblank : ∀ n, Text.blank (ids n) = false) (hv : s.Valid ids)
    (hpair : pair ∈ s.portPairs) (hnamed : pair.NamedBy port)
    (hone : ∀ p ∈ s.portPairs, p.NamedBy port → p = pair) (hg : g ∈ s.portPairGroups)
    (hlisted : Kind.portPair.key pair ∈ g.portPairs)
    (hlast : g.portPairs.filter (· ≠ Kind.portPair.key pair) = [])
    (hchained : ¬ s.Free (Kind.portPairGroup.key g) .portPairGroup) (i : Nat) :
    ∃ text, Climbs ids (fun _ ↦ s)
      (fun r _ ↦ r = .error (.callFailure .delete Kind.portPairGroup.displayName (some 409) text))
      (removeInspectionPort port) i := by
  have hne : Kind.portPairGroup.key g ≠ "" :=
    hv.sound.id_ne hblank .portPairGroup (by decide) hg
  obtain ⟨text, hrun⟩ : ∃ text, calm ids (Gateway.delete .portPairGroup
      (Kind.portPairGroup.key g)) s = (.error (.callFailure .delete
        Kind.portPairGroup.displayName (some 409) text), s.memory []) :=
    calm_delete_held hne hchained
  refine ⟨text, ?_⟩
  refine Climbs.bindFound (finds_pairOf_still hv.sound port i) fun found j hfound ↦ ?_
  cases found with
  | none => exact absurd hnamed (hfound.2 rfl pair hpair)
  | some p =>
    obtain ⟨hp, hpnamed⟩ := hfound.1 p rfl
    cases hone p hp hpnamed
    refine Climbs.read single_groupOfPair (fun j _ ↦ .groupOfPair s _) fun k _ ↦ ?_
    have hgroup : s.groupOfPair (Kind.portPair.key pair) = some g :=
      hv.linked.groupOfPair hg hlisted
    -- without the pair the group would be empty, so it is to be deleted
    have hleave : leaveGroup g (Kind.portPair.key pair) =
        Gateway.delete .portPairGroup (Kind.portPairGroup.key g) := by
      rw [leaveGroup]
      simp only [hlast, List.isEmpty_nil, if_true]
      rfl
    have hstop : Climbs ids (fun _ ↦ s) (fun r _ ↦ r =
        .error (.callFailure .delete Kind.portPairGroup.displayName (some 409) text))
        (leaveGroup g (Kind.portPair.key pair)) k := by
      rw [hleave]
      exact Abides.single (Gateway.single_delete hne) fun j _ ↦
        ⟨_, j, hrun, Nat.le_refl j, fun _ _ ↦ rfl⟩
    dsimp only
    rw [show s.groupOfPair (pair.id.getD "") = some g from hgroup]
    exact Abides.bind hstop (fun _ _ h ↦ Except.error.inj h ▸ rfl) fun _ _ h ↦ by cases h

/-- The request is for the removal of a hook, or of an inspection port of which it does not name two
at once. -/
inductive Service.Removes (s : Service) : Request → Prop
  | hook (hook : String) : s.Removes (.removeHook hook)
  | inspectionPort {port : InspectionPort} (hone : ∀ p ∈ s.portPairs, ∀ q ∈ s.portPairs,
      p.NamedBy port → q.NamedBy port → p = q) : s.Removes (.removeInspectionPort port)

theorem Service.Valid.removes (hv : s.Valid ids)
    (h : ∀ p ∈ s.portPairs, p.id = port.elementId → port.ingressId = none ∧ port.egressId = none ∨
      (p.ingress, p.egress) = (port.ingressId, port.egressId)) :
    s.Removes (.removeInspectionPort port) := by
  have hends (p q : PortPair) (hp : p ∈ s.portPairs) (hq : q ∈ s.portPairs)
      (he : (p.ingress, p.egress) = (q.ingress, q.egress)) : p = q :=
    List.inj_on_of_nodup_map hv.linked.ends hp hq he
  -- one is named by its id and the other by its ends, which are those of the first
  have hmixed (p q : PortPair) (hp : p ∈ s.portPairs) (hq : q ∈ s.portPairs)
      (hid : p.id = port.elementId) (hq' : (q.ingress, q.egress) = (port.ingressId, port.egressId))
      (hsome : port.ingressId ≠ none ∨ port.egressId ≠ none) : p = q := by
    rcases h p hp hid with ⟨hin, hout⟩ | he
    · exact hsome.elim (fun h ↦ absurd hin h) fun h ↦ absurd hout h
    · exact hends p q hp hq (he.trans hq'.symm)
  refine .inspectionPort fun p hp q hq hpnamed hqnamed ↦ ?_
  rcases hpnamed with ⟨id, -, hpid, hid⟩ | ⟨hpends, hsome⟩
  · rcases hqnamed with ⟨id', -, hqid, hid'⟩ | ⟨hqends, hsome⟩
    · cases hid.symm.trans hid'
      have hkeys : Kind.portPair.key p = Kind.portPair.key q :=
        congrArg (Option.getD · "") (hpid.trans hqid.symm)
      exact List.inj_on_of_nodup_map (hv.sound.distinct .portPair) hp hq hkeys
    · exact hmixed p q hp hq (hpid.trans hid.symm) hqends hsome
  · rcases hqnamed with ⟨id, -, hqid, hid⟩ | ⟨hqends, -⟩
    · exact (hmixed q p hq hp (hqid.trans hid.symm) hpends hsome).symm
    · exact hends p q hp hq (hpends.trans hqends.symm)

/-- The removal cannot be made: there is no id, or the pair is the last of a group in a chain. -/
inductive Service.Refuses (s : Service) : Request → Error → Prop
  | blank {hook : String} (hblank : Text.blank hook = true) :
      s.Refuses (.removeHook hook) (.invalidArgument "Inspection Hook Id")
  | chained {port : InspectionPort} {p : PortPair} {g : PortPairGroup} (text : String)
      (hp : p ∈ s.portPairs) (hnamed : p.NamedBy port) (hg : g ∈ s.portPairGroups)
      (hlisted : Kind.portPair.key p ∈ g.portPairs)
      (hlast : g.portPairs.filter (· ≠ Kind.portPair.key p) = [])
      (hchained : ¬ s.Free (Kind.portPairGroup.key g) .portPairGroup) :
      s.Refuses (.removeInspectionPort port)
        (.callFailure .delete Kind.portPairGroup.displayName (some 409) text)

theorem Finds.ended {t : Service} {p : Program Unit}
    (h : Finds ids stage (fun _ j ↦ Lasts stage t j) p 0) :
    Climbs ids stage (fun x j ↦ x = .ok () ∧ stage j = t) p 0 := by
  refine Abides.mono h ?_
  rintro _ j ⟨_, rfl, hj⟩
  exact ⟨rfl, hj j (Nat.le_refl j)⟩

/-- What a removal comes to and where it leads, whatever other clients do that remove the same. -/
def Service.Settles (key : String) (ids : Nat → String) (s : Service) (r : Request) : Prop :=
  ∃ stage o t, stage 0 = s ∧ (∀ i, (stage i).drawn = s.drawn) ∧
    ((∃ a, o = .ok a ∧ ∀ e, ¬ s.Refuses r e) ∨ ∃ e, o = .error e ∧ s.Refuses r e) ∧
    Climbs ids stage (fun x j ↦ x = o ∧ stage j = t) (r.program key) 0

theorem settles_removeHook (hids : Function.Injective ids)
    (hblank : ∀ n, Text.blank (ids n) = false) (hv : s.Valid ids) (ht : s.Tagged key ids)
    (hook : String) : s.Settles key ids (.removeHook hook) := by
  cases hempty : Text.blank hook with
  | true =>
    have hid : Guard.requireText (some hook) "Inspection Hook Id" =
        .error (.invalidArgument "Inspection Hook Id") := by
      rw [Guard.requireText, hempty]
      rfl
    refine ⟨fun _ ↦ s, .error _, s, rfl, fun _ ↦ rfl, .inr ⟨_, rfl, .blank hempty⟩, ?_⟩
    rw [Request.program, removeHook, hid]
    exact fun j _ ↦ ⟨rfl, rfl⟩
  | false =>
    have hid : Guard.requireText (some hook) "Inspection Hook Id" = .ok hook :=
      Guard.requireText_eq_ok_iff.2 ⟨rfl, hempty⟩
    obtain ⟨u, w, t, h⟩ := exists_hookStages hids hblank hv ht (Guard.ne_of_requireText hid)
    refine ⟨stages s u w t, .ok (), t, rfl, h.drawn_eq, .inl ⟨(), rfl, ?_⟩,
      (h.finds_removeHook hids hblank hid 0).ended⟩
    intro e he
    cases he with
    | blank hblank => cases hblank.symm.trans hempty

theorem settles_removeInspectionPort (hblank : ∀ n, Text.blank (ids n) = false)
    (hv : s.Valid ids) (hone : ∀ p ∈ s.portPairs, ∀ q ∈ s.portPairs,
      p.NamedBy port → q.NamedBy port → p = q) :
    s.Settles key ids (.removeInspectionPort port) := by
  by_cases hnamed : ∃ p ∈ s.portPairs, p.NamedBy port
  · obtain ⟨p, hp, hnamed⟩ := hnamed
    have hsame (q : PortPair) (hq : q ∈ s.portPairs) (hqnamed : q.NamedBy port) : q = p :=
      hone q hq p hp hqnamed hnamed
    by_cases hchained : ∃ g ∈ s.portPairGroups, Kind.portPair.key p ∈ g.portPairs ∧
        g.portPairs.filter (· ≠ Kind.portPair.key p) = [] ∧
          ¬ s.Free (Kind.portPairGroup.key g) .portPairGroup
    · obtain ⟨g, hg, hlisted, hlast, hheld⟩ := hchained
      obtain ⟨text, h⟩ := climbs_chained hblank hv hp hnamed hsame hg hlisted hlast hheld 0
      exact ⟨fun _ ↦ s, _, s, rfl, fun _ ↦ rfl,
        .inr ⟨_, rfl, .chained text hp hnamed hg hlisted hlast hheld⟩,
        Abides.mono h fun _ _ hx ↦ ⟨hx, rfl⟩⟩
    · obtain ⟨u, w, h⟩ := exists_pairStages hblank hv hp fun g hg hlisted hlast ↦ by
        by_contra hheld
        exact hchained ⟨g, hg, hlisted, hlast, hheld⟩
      refine ⟨stages s u w w, .ok (), w, rfl, h.drawn_eq, .inl ⟨(), rfl, ?_⟩,
        (h.finds_removeInspectionPort hblank hnamed hsame 0).ended⟩
      intro e he
      cases he with
      | chained text hq hqnamed hg hlisted hlast hheld =>
        cases hsame _ hq hqnamed
        exact hchained ⟨_, hg, hlisted, hlast, hheld⟩
  · have hnone (p : PortPair) (hp : p ∈ s.portPairs) (hpnamed : p.NamedBy port) : False :=
      hnamed ⟨p, hp, hpnamed⟩
    refine ⟨fun _ ↦ s, .ok (), s, rfl, fun _ ↦ rfl, .inl ⟨(), rfl, ?_⟩,
      Abides.mono (climbs_unnamed hv.sound hnone 0) fun _ _ hx ↦ ⟨hx, rfl⟩⟩
    intro e he
    cases he with
    | chained text hq hqnamed => exact hnone _ hq hqnamed

def Engine.Request.duplicates (key : String) (r : Request) (n : Nat) (m : Memory) :
    Clients r.Value Memory := { programs := List.replicate n (r.program key), state := m }

/-- Clients that all remove the same hook, or the same inspection port, do not disturb each other:
in whatever order their calls come, each comes to what one removal alone comes to, and once one has
ended the memory is as after that removal. -/
theorem removals_agree (hids : Function.Injective ids)
    (hblank : ∀ n, Text.blank (ids n) = false) (hm : Reachable key ids (s.memory []))
    {r : Request} (hr : s.Removes r) (n : Nat) (schedule : List Nat) :
    let alone := r.run key ids (s.memory [])
    let together := (r.duplicates key n (s.memory [])).interleave (Memory.transport ids) schedule
    ((∃ a, alone.1 = .ok a ∧ ∀ e, ¬ s.Refuses r e) ∨ ∃ e, alone.1 = .error e ∧ s.Refuses r e) ∧
      (∀ p ∈ together.programs, ∀ o, p.outcome? = some o →
        o = alone.1 ∧ together.state = alone.2) ∧
      ∃ more, ∀ p ∈ (together.interleave (Memory.transport ids) more).programs,
        p.outcome? = some alone.1 := by
  obtain ⟨s', failures, hs, hv, ht⟩ := hm.service hids
  cases Service.memory_injective hs
  obtain ⟨stage, o, t, rfl, hdrawn, ho, hclimbs⟩ : s.Settles key ids r := by
    cases hr with
    | hook hook => exact settles_removeHook hids hblank hv ht hook
    | inspectionPort hone => exact settles_removeInspectionPort hblank hv hone
  intro alone together
  -- one client alone goes through the same stages as all together
  obtain ⟨i, halone, -, ho', hi⟩ := hclimbs.run fun _ _ h ↦ h
  have hstate : alone.2 = t.memory [] := halone.trans (congrArg (Service.memory · []) hi)
  have hstart : Abides.All (Memory.transport ids) (fun j ↦ (stage j).memory []) (· ≤ ·) (· ≤ ·)
      (fun x j ↦ x = o ∧ stage j = t) (r.duplicates key n ((stage 0).memory [])) 0 := by
    refine ⟨rfl, fun p hp ↦ ?_⟩
    rw [List.eq_of_mem_replicate hp]
    exact hclimbs
  obtain ⟨j, -, hall⟩ := hstart.interleave (fun _ _ h ↦ h) schedule
  refine ⟨ho' ▸ ho, fun p hp x hx ↦ ?_, ?_⟩
  · obtain ⟨rfl, hj⟩ := (hall.2 p hp).outcome hx
    refine ⟨ho'.symm, ?_⟩
    rw [hstate, ← hj]
    exact hall.1
  -- a removal draws no ids, so every turn is a call and the clients can be run to their ends
  · have hdraw (k l : Nat) (h : ((Memory.transport ids).draw ((stage k).memory [])).2 =
        (stage l).memory []) : ¬ k ≤ l := by
      have hmore : (stage k).drawn + 1 = (stage l).drawn := congrArg Memory.drawn h
      rw [hdrawn k, hdrawn l] at hmore
      omega
    obtain ⟨more, hmore⟩ := hall.exists_end (fun _ _ h ↦ h) hdraw
    obtain ⟨l, -, hlast⟩ := hall.interleave (fun _ _ h ↦ h) more
    refine ⟨more, fun p hp ↦ ?_⟩
    obtain ⟨x, hx⟩ := Option.ne_none_iff_exists'.1 (hmore p hp)
    rw [hx, ((hlast.2 p hp).outcome hx).1, ← ho']
    rfl

namespace Sample

def named : InspectionPort := { elementId := some (numberedId 1) }

end Sample

theorem sample_removals_agree : Function.Injective numberedId ∧
    (∀ n, Text.blank (numberedId n) = false) ∧ ∃ s : Service, s.memory [] = Sample.memory ∧
      Reachable defaultKey numberedId (s.memory []) ∧
      s.Removes (.removeInspectionPort Sample.named) ∧
      ∃ more, ∀ p ∈ ((Request.duplicates defaultKey (.removeInspectionPort Sample.named) 2
          (s.memory [])).interleave (Memory.transport numberedId) [0, 1, 1]).interleave
            (Memory.transport numberedId) more |>.programs,
        p.outcome? = some ((Request.removeInspectionPort Sample.named).run defaultKey numberedId
          (s.memory [])).1 := by
  have hreachable : Reachable defaultKey numberedId Sample.memory :=
    ⟨"project", Sample.ports, Sample.events, by decide, rfl⟩
  obtain ⟨s, failures, hs, hv, -⟩ := hreachable.service numberedId_injective
  cases (congrArg Memory.failures hs : [] = failures)
  have hremoves : s.Removes (.removeInspectionPort Sample.named) :=
    hv.removes fun _ _ _ ↦ .inl ⟨rfl, rfl⟩
  rw [hs] at hreachable
  obtain ⟨-, -, hended⟩ := removals_agree numberedId_injective numberedId_not_blank hreachable
    hremoves 2 [0, 1, 1]
  exact ⟨numberedId_injective, numberedId_not_blank, s, hs.symm, hreachable, hremoves, hended⟩

end TrafficSteering
