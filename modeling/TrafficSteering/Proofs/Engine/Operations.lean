import TrafficSteering.Proofs.Engine.Changes
import TrafficSteering.Proofs.Engine.Links

namespace TrafficSteering

open Engine HookTag

variable {key : String} {ids : Nat → String} {s t : Service} {α β : Type}

/-- Wherever the program ends, the service has been changed in steps. -/
def InSteps (R : Service → Service → Prop) (ids : Nat → String) (p : Program α) (s : Service) :
    Prop :=
  Ends ids .any p s (fun _ t ↦ Relation.ReflTransGen R s t) fun _ t ↦ Relation.ReflTransGen R s t

namespace InSteps

variable {R : Service → Service → Prop} {p : Program α} {f : α → Program β}
  {E : Error → Service → Prop} {Q : α → Service → Prop} {r : Except Error α}

theorem done (a : α) : InSteps R ids (pure a) s := Ends.done .refl

theorem bind (hp : Ends ids .any p s E Q) (hE : ∀ e t, E e t → Relation.ReflTransGen R s t)
    (hQ : ∀ a t, Q a t → Relation.ReflTransGen R s t ∧ InSteps R ids (f a) t) :
    InSteps R ids (p >>= f) s := by
  refine Ends.bind hp hE fun a t h ↦ ?_
  obtain ⟨hsteps, hf⟩ := hQ a t h
  exact hf.mono (fun _ _ h ↦ hsteps.trans h) fun _ _ h ↦ hsteps.trans h

theorem read (hp : Atomic ids .any p s r s) (hf : ∀ a, r = .ok a → InSteps R ids (f a) s) :
    InSteps R ids (p >>= f) s := Ends.read hp (fun _ ↦ .refl) hf

theorem last (hp : Ends ids .any p s E Q) (hE : ∀ e t, E e t → Relation.ReflTransGen R s t)
    (hQ : ∀ a t, Q a t → Relation.ReflTransGen R s t) : InSteps R ids p s := hp.mono hE hQ

theorem atomic (hp : Atomic ids .any p s r s) : InSteps R ids p s := by
  refine last hp ?_ fun _ _ h ↦ h.2 ▸ .refl
  rintro e t (⟨-, rfl⟩ | ⟨-, -, rfl⟩) <;> exact .refl

theorem afterChanges {changed : Bool} {step : String} (hp : InSteps R ids p s) :
    InSteps R ids (p.afterChanges changed step) s := Ends.mapError hp

theorem bindAfter {changed : Bool} {step : String} (hp : Ends ids .any p s E Q)
    (hE : ∀ e t, E e t → Relation.ReflTransGen R s t)
    (hQ : ∀ a t, Q a t → Relation.ReflTransGen R s t ∧ InSteps R ids (f a) t) :
    InSteps R ids (p.afterChanges changed step >>= f) s :=
  bind (.mapError (E := fun _ t ↦ Relation.ReflTransGen R s t) (hp.mono hE fun _ _ h ↦ h))
    (fun _ _ h ↦ h) hQ

theorem steps (hp : InSteps (ChainStep ids) ids p s) : InSteps (Step key ids) ids p s :=
  hp.mono (fun _ _ h ↦ ChainSteps.steps h) fun _ _ h ↦ ChainSteps.steps h

end InSteps

theorem Refused.steps {R : Service → Service → Prop} {id : String} {e : Error}
    (h : Refused .any id s e t) : Relation.ReflTransGen R s t := h.1 ▸ .refl

theorem Deleted.steps (kind : Kind) {id : String} (hport : kind ≠ .port)
    (hhook : kind ≠ .flowClassifier) (h : Deleted .any kind id s t) : ChainSteps ids s t := by
  obtain ⟨rfl, -⟩ | ⟨l₁, r, l₂, hsplit, rfl, hfree, rfl⟩ := h
  · exact .refl
  · exact .single (.drop hport hhook hsplit hfree)

theorem InSteps.delete (hs : s.Sound ids) (kind : Kind) (hport : kind ≠ .port)
    (hhook : kind ≠ .flowClassifier) (id : String) :
    InSteps (ChainStep ids) ids (Gateway.delete kind id) s :=
  last (Ends.delete hs kind id) (fun _ _ h ↦ h.1 ▸ .refl) fun _ _ h ↦ h.steps kind hport hhook

theorem getInspectionPort_inSteps (port : InspectionPort) :
    InSteps (ChainStep ids) ids (getInspectionPort port) s := by
  refine .read (.pairOf s port) fun found _ ↦ ?_
  cases found with
  | none => exact .done none
  | some pair =>
    refine .read (.groupOfPair s _) fun group _ ↦ ?_
    obtain ⟨r, hr⟩ := ReadsAlike.inspectionPort (t := s) (fun _ _ ↦ rfl) pair (group.bind (·.id))
    exact .read (hr .any).1 fun _ _ ↦ .done _

theorem placePair_inSteps (hv : s.Valid ids) (hids : Function.Injective ids) {pairId : String}
    {group : Option PortPairGroup} (hgroup : ∀ g ∈ group, g ∈ s.portPairGroups)
    (hstored : s.Stores .portPair pairId) (hfree : s.Free pairId .portPair) :
    InSteps (ChainStep ids) ids (placePair group pairId) s := by
  cases group with
  | none =>
    refine .last (Atomic.create hv.sound hids .portPairGroup (by decide) (newGroup pairId)) ?_ ?_
    · rintro e t (⟨⟨⟩, -⟩ | ⟨-, -, rfl⟩)
      exact .refl
    · rintro a t ⟨-, rfl⟩
      exact .single (.addGroup (newGroup pairId) rfl hstored hfree)
  | some g =>
    obtain ⟨l₁, l₂, hsplit⟩ := List.append_of_mem (hgroup g rfl)
    refine .last (Ends.joinGroup hv.sound hsplit pairId) (fun _ _ h ↦ h.steps) ?_
    rintro a t ⟨-, rfl⟩
    exact .single (.join hsplit hstored hfree)

theorem requestedGroup_eq_ok {v : Inventory} {port : InspectionPort} {g : PortPairGroup}
    (h : v.requestedGroup port = .ok (some g)) : g ∈ v.portPairGroups := by
  rw [Inventory.requestedGroup] at h
  split at h
  · cases h
  · split at h
    · cases h
    · split at h
      · cases h
      · rename_i hfind
        cases h
        exact List.mem_of_find?_eq_some hfind

theorem findOrCreatePair_steps (hv : s.Valid ids) (hids : Function.Injective ids)
    (ingress egress : String) :
    Ends ids .any (findOrCreatePair ingress egress) s (fun _ t ↦ t = s) fun a t ↦
      ChainSteps ids s t ∧ a.1 ∈ t.portPairs ∧ t.portPairGroups = s.portPairGroups := by
  refine (Atomic.findOrCreatePair hv.sound hids ingress egress).mono ?_ ?_
  · rintro e t (⟨⟨⟩, -⟩ | ⟨-, -, rfl⟩)
    rfl
  · rintro a t ⟨ha, ht⟩
    cases hfind : s.pairByPorts (some ingress) (some egress) with
    | some pair =>
      rw [hfind] at ha ht
      cases ha
      cases ht
      exact ⟨.refl, List.mem_of_find?_eq_some hfind, rfl⟩
    | none =>
      rw [hfind] at ha ht
      cases ha
      cases ht
      exact ⟨.single (.addPair _ (Inventory.pairByPorts_eq_none hfind)), by
        simp [Service.add, Service.put, Inventory.set, Inventory.get], rfl⟩

theorem registerInspectionPort_inSteps (hv : s.Valid ids) (hids : Function.Injective ids)
    (port : InspectionPort) : InSteps (ChainStep ids) ids (registerInspectionPort port) s := by
  refine .read (.lift _) fun ingress _ ↦ .read (.lift _) fun egress _ ↦ ?_
  refine .read (.requestedGroup s port) fun requested hrequested ↦ ?_
  refine .bind (findOrCreatePair_steps hv hids ingress egress)
    (fun _ _ h ↦ h ▸ .refl) ?_
  rintro ⟨pair, created⟩ t ⟨hsteps, hpair, hgroups⟩
  have hvt : t.Valid ids := hv.chainSteps hids hsteps
  refine ⟨hsteps, .read (.groupOfPair t _) fun group hgroup ↦ ?_⟩
  cases Except.ok.inj hgroup
  cases hfind : t.groupOfPair (pair.id.getD "") with
  | some g => exact .done _
  | none =>
    have hstored : t.Stores .portPair (pair.id.getD "") :=
      ⟨pair, hpair, hvt.sound.idOf_eq .portPair hpair⟩
    have hplace : InSteps (ChainStep ids) ids (placePair requested (pair.id.getD "")) t := by
      refine placePair_inSteps hvt hids ?_ hstored (Inventory.groupOfPair_eq_none.1 hfind)
      rintro g rfl
      exact hgroups ▸ requestedGroup_eq_ok hrequested
    exact .bind hplace.afterChanges (fun _ _ h ↦ h) fun _ _ h ↦ ⟨h, .done _⟩

theorem leaveGroup_inSteps (hv : s.Valid ids) {g : PortPairGroup} (hg : g ∈ s.portPairGroups)
    (pairId : String) : InSteps (ChainStep ids) ids (leaveGroup g pairId) s := by
  obtain ⟨l₁, l₂, hsplit⟩ := List.append_of_mem hg
  refine .last (Ends.leaveGroup hv.sound hsplit) (fun _ _ h ↦ h.1 ▸ .refl) fun _ t h ↦ ?_
  by_cases hlast : g.portPairs.filter (· ≠ pairId) = []
  · rw [if_pos hlast] at h
    exact h.steps .portPairGroup (by decide) (by decide)
  · rw [if_neg hlast] at h
    exact h ▸ .single (.leave hsplit hlast)

theorem removeInspectionPort_inSteps (hv : s.Valid ids) (hids : Function.Injective ids)
    (port : InspectionPort) : InSteps (ChainStep ids) ids (removeInspectionPort port) s := by
  refine .read (.pairOf s port) fun found _ ↦ ?_
  cases found with
  | none => exact .done ()
  | some pair =>
    refine .read (.groupOfPair s _) fun group hgroup ↦ ?_
    cases group with
    | none => exact (InSteps.delete hv.sound .portPair (by decide) (by decide) _).afterChanges
    | some g =>
      have hg := Inventory.groupOfPair_eq_some (Except.ok.inj hgroup)
      refine .bind (leaveGroup_inSteps hv hg.1 _) (fun _ _ h ↦ h) fun _ t h ↦ ⟨h, ?_⟩
      have hsound := (hv.chainSteps hids h).sound
      exact (InSteps.delete hsound .portPair (by decide) (by decide) _).afterChanges

theorem registerChain_inSteps (hv : s.Valid ids) (hids : Function.Injective ids)
    (groups : List NetworkElement) : InSteps (ChainStep ids) ids (registerChain groups) s := by
  refine .read (.lift _) fun _ _ ↦ .read (.lift _) fun groupIds _ ↦ ?_
  obtain ⟨r, hr, hchainable⟩ := Atomic.validateGroups hv.sound groupIds none
  refine .read (hr _) fun _ hok ↦ ?_
  have hgroups : s.Chainable groupIds none := hchainable.1 hok
  refine .bind (Atomic.create hv.sound hids .portChain (by decide) _) ?_ ?_
  · rintro e t (⟨⟨⟩, -⟩ | ⟨-, -, rfl⟩)
    exact .refl
  · rintro a t ⟨-, rfl⟩
    exact ⟨.single (.addChain _ hgroups rfl), .done _⟩

theorem Inventory.Chainable.clear {v : Service} {groupIds : List String} {l₁ l₂ : List PortChain}
    {c : PortChain} (h : v.Chainable groupIds c.id) (hsplit : v.portChains = l₁ ++ c :: l₂) :
    (v.put .portChain (l₁ ++ { c with portPairGroups := [] } :: l₂)).Chainable groupIds c.id := by
  refine ⟨h.1, fun id hid d hd hne ↦ ?_⟩
  rcases List.mem_append.1 hd with hd | hd
  · exact h.2 id hid d (by simp [hsplit, hd]) hne
  · rcases List.mem_cons.1 hd with rfl | hd
    · exact List.not_mem_nil
    · exact h.2 id hid d (by simp [hsplit, hd]) hne

theorem updateChain_inSteps (hv : s.Valid ids) (hids : Function.Injective ids) (chain : Element)
    (groups : List NetworkElement) : InSteps (ChainStep ids) ids (updateChain chain groups) s := by
  refine .read (.lift _) fun chainId _ ↦ .read (.lift _) fun _ _ ↦ ?_
  refine .read (.lift _) fun groupIds _ ↦ ?_
  obtain ⟨r, hr, hrequired⟩ := Atomic.requireChain ids s chainId
  refine .read (hr _) fun c hc ↦ ?_
  obtain ⟨-, hfind⟩ := (hrequired c).1 hc
  obtain ⟨rfl, l₁, l₂, hsplit⟩ := Inventory.find?_eq_some hfind
  obtain ⟨r', hr', hchainable⟩ :=
    Atomic.validateGroups hv.sound groupIds (some (Kind.portChain.key c))
  refine .read (hr' _) fun _ hok ↦ ?_
  have hid : c.id = some (Kind.portChain.key c) :=
    hv.sound.idOf_eq .portChain (List.mem_of_find?_eq_some hfind)
  have hgroups : s.Chainable groupIds c.id := hid ▸ hchainable.1 hok
  refine .bind (Ends.setGroups hv.sound hsplit []) (fun _ _ h ↦ h.steps) ?_
  rintro _ t ⟨rfl, rfl⟩
  have hclear : ChainStep ids s (s.put .portChain (l₁ ++ { c with portPairGroups := [] } :: l₂)) :=
    .regroup hsplit ⟨nofun, nofun⟩
  refine ⟨.single hclear, ?_⟩
  refine .bindAfter (Ends.setGroups (hv.chainSteps hids (.single hclear)).sound rfl groupIds)
    (fun _ _ h ↦ h.steps) ?_
  rintro _ t ⟨rfl, rfl⟩
  exact ⟨.single (.regroup rfl (hgroups.clear hsplit)), .done _⟩

theorem deleteChain_inSteps (hv : s.Valid ids) (chain : Element) :
    InSteps (ChainStep ids) ids (deleteChain chain) s := by
  refine .read (.lift _) fun chainId _ ↦ ?_
  obtain ⟨r, hr, hrequired⟩ := Atomic.requireChain ids s chainId
  refine .read (hr _) fun c hc ↦ ?_
  obtain ⟨hid, -⟩ := (hrequired c).1 hc
  refine Ends.deleteRaw hv.sound hid (fun _ _ _ ↦ .refl) ?_ ?_ ?_ ?_
  · intro code text _
    split
    · exact Ends.done .refl
    · exact Ends.fail .refl
  · exact fun _ text ↦ Ends.fail .refl
  · exact fun _ text ↦ Ends.fail .refl
  · rintro l₁ c l₂ hsplit rfl hfree
    exact Ends.done (.single (.drop (by decide) (by decide) hsplit hfree))

theorem getChain_inSteps (chain : Element) : InSteps (ChainStep ids) ids (getChain chain) s := by
  refine .read (.lift _) fun chainId _ ↦ ?_
  obtain ⟨r, hr, -⟩ := Atomic.requireChain ids s chainId
  refine .read (hr _) fun c _ ↦ ?_
  obtain ⟨r', hr'⟩ := Atomic.chainTree ids s c
  exact .atomic (hr' .any)

end TrafficSteering
