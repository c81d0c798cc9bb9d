import Mathlib.Data.List.Nodup
import TrafficSteering.Proofs.Engine.Steps

namespace TrafficSteering

section

variable {α β : Type} {f : α → List β} {l₁ l₂ : List α} {a a' : α} {x : β}

theorem sublist_flatMap_amend (h : List.Sublist (f a') (f a)) :
    List.Sublist ((l₁ ++ a' :: l₂).flatMap f) ((l₁ ++ a :: l₂).flatMap f) := by
  simp only [List.flatMap_append, List.flatMap_cons]
  exact (List.Sublist.refl _).append (h.append (List.Sublist.refl _))

theorem sublist_flatMap_remove :
    List.Sublist ((l₁ ++ l₂).flatMap f) ((l₁ ++ a :: l₂).flatMap f) := by
  simp only [List.flatMap_append, List.flatMap_cons]
  exact (List.Sublist.refl _).append (List.sublist_append_right _ _)

theorem nodup_flatMap_extend (h : ((l₁ ++ a :: l₂).flatMap f).Nodup)
    (hx : ∀ b ∈ l₁ ++ a :: l₂, x ∉ f b) (ha : f a' = f a ++ [x]) :
    ((l₁ ++ a' :: l₂).flatMap f).Nodup := by
  have hperm : List.Perm ((l₁ ++ a' :: l₂).flatMap f) (x :: (l₁ ++ a :: l₂).flatMap f) := by
    simp only [List.flatMap_append, List.flatMap_cons, ha, List.append_assoc, List.singleton_append]
    rw [← List.append_assoc, ← List.append_assoc]
    exact List.perm_middle
  refine hperm.nodup_iff.2 (List.nodup_cons.2 ⟨fun hmem ↦ ?_, h⟩)
  obtain ⟨b, hb, hxb⟩ := List.mem_flatMap.1 hmem
  exact hx b hb hxb

theorem eq_of_nodup_flatMap (h : ((l₁ ++ a :: l₂).flatMap f).Nodup) (hx : x ∈ f a) :
    ∀ b ∈ l₁ ++ l₂, x ∉ f b := by
  intro b hb hxb
  rw [List.flatMap_append, List.flatMap_cons, List.nodup_append] at h
  obtain ⟨-, hright, hleft⟩ := h
  rcases List.mem_append.1 hb with hb | hb
  · exact hleft x (List.mem_flatMap.2 ⟨b, hb, hxb⟩) x (by simp [hx]) rfl
  · exact (List.nodup_append.1 hright).2.2 x hx x (List.mem_flatMap.2 ⟨b, hb, hxb⟩) rfl

theorem forall_mem_amend {P : α → Prop} (hothers : ∀ b ∈ l₁ ++ l₂, P b) (ha : P a) :
    ∀ b ∈ l₁ ++ a :: l₂, P b := by
  intro b hb
  rcases List.mem_cons.1 (List.perm_middle.mem_iff.1 hb) with rfl | hb
  · exact ha
  · exact hothers b hb

theorem same_of_nodup_flatMap (h : ((l₁ ++ a :: l₂).flatMap f).Nodup) (hx : x ∈ f a)
    (ha' : a' ∈ l₁ ++ a :: l₂) (hx' : x ∈ f a') : a' = a := by
  by_contra hne
  exact eq_of_nodup_flatMap h hx a' (by grind) hx'

end

namespace Service

variable {ids : Nat → String} {s : Service} {k : Kind} {id : String}

theorem stores_add (kind : Kind) (r : kind.Resource) (h : s.Stores k id) :
    (s.add ids kind r).Stores k id := by
  obtain ⟨x, hx, hid⟩ := h
  by_cases hk : k = kind
  · subst hk
    exact ⟨x, by rw [get_add]; exact List.mem_append_left _ hx, hid⟩
  · exact ⟨x, (get_put_of_ne s hk _).symm ▸ hx, hid⟩

variable (kind : Kind) {l₁ l₂ : List kind.Resource} {r r' : kind.Resource}

theorem stores_amend (h : s.get kind = l₁ ++ r :: l₂) (hr : kind.idOf r' = kind.idOf r)
    (hstored : s.Stores k id) : (s.put kind (l₁ ++ r' :: l₂)).Stores k id := by
  obtain ⟨x, hx, hid⟩ := hstored
  by_cases hk : k = kind
  · subst hk
    rw [h, List.mem_append, List.mem_cons] at hx
    rcases hx with hx | rfl | hx
    · exact ⟨x, by simp [hx], hid⟩
    · exact ⟨r', by simp, hr.trans hid⟩
    · exact ⟨x, by simp [hx], hid⟩
  · exact ⟨x, (get_put_of_ne s hk _).symm ▸ hx, hid⟩

theorem stores_remove (h : s.get kind = l₁ ++ r :: l₂) (hid : id ≠ kind.key r)
    (hstored : s.Stores kind id) : (s.put kind (l₁ ++ l₂)).Stores kind id := by
  obtain ⟨x, hx, hx'⟩ := hstored
  rw [h, List.mem_append, List.mem_cons] at hx
  rcases hx with hx | rfl | hx
  · exact ⟨x, by simp [hx], hx'⟩
  · exact absurd (Kind.key_eq hx').symm hid
  · exact ⟨x, by simp [hx], hx'⟩

theorem Sound.stores_remove_iff (hs : s.Sound ids) (h : s.get kind = l₁ ++ r :: l₂) :
    (s.put kind (l₁ ++ l₂)).Stores kind id ↔ s.Stores kind id ∧ id ≠ kind.key r := by
  refine ⟨fun ⟨x, hx, hid⟩ ↦ ?_, fun ⟨hstored, hid⟩ ↦ stores_remove kind h hid hstored⟩
  rw [get_put_self] at hx
  obtain ⟨hleft, hright⟩ := hs.keys_ne h
  have hmem : x ∈ s.get kind := by
    rw [h]
    grind
  refine ⟨⟨x, hmem, hid⟩, ?_⟩
  rw [← Kind.key_eq hid]
  exact (List.mem_append.1 hx).elim (hleft x) (hright x)

end Service

/-- Pairs differ in their ends; groups list stored pairs, each once, and at least one; chains list
stored groups, and no two chains the same. -/
structure Inventory.Linked (v : Inventory) : Prop where
  ends : (v.portPairs.map fun p ↦ (p.ingress, p.egress)).Nodup
  pairsStored : ∀ g ∈ v.portPairGroups, ∀ id ∈ g.portPairs, v.Stores .portPair id
  pairsOnce : (v.portPairGroups.flatMap PortPairGroup.portPairs).Nodup
  filled : ∀ g ∈ v.portPairGroups, g.portPairs ≠ []
  groupsStored : ∀ c ∈ v.portChains, ∀ id ∈ c.portPairGroups, v.Stores .portPairGroup id
  groupsApart : v.portChains.Pairwise fun c d ↦ ∀ id ∈ c.portPairGroups, id ∉ d.portPairGroups

namespace Inventory.Linked

variable {v w : Inventory} {key : String} {ids : Nat → String} {s t : Service}

theorem others {l₁ l₂ : List PortPairGroup} {g : PortPairGroup} {pairId : String} (h : v.Linked)
    (hsplit : v.portPairGroups = l₁ ++ g :: l₂) (hlisted : pairId ∈ g.portPairs) :
    ∀ x ∈ l₁ ++ l₂, pairId ∉ x.portPairs :=
  eq_of_nodup_flatMap (hsplit ▸ h.pairsOnce) hlisted

theorem eq_of_listed {g g' : PortPairGroup} {pairId : String} (h : v.Linked)
    (hg : g ∈ v.portPairGroups) (hg' : g' ∈ v.portPairGroups) (hlisted : pairId ∈ g.portPairs)
    (hlisted' : pairId ∈ g'.portPairs) : g' = g := by
  obtain ⟨l₁, l₂, hsplit⟩ := List.append_of_mem hg
  exact same_of_nodup_flatMap (hsplit ▸ h.pairsOnce) hlisted (hsplit ▸ hg') hlisted'

theorem groupOfPair {g : PortPairGroup} {pairId : String} (h : v.Linked)
    (hg : g ∈ v.portPairGroups) (hlisted : pairId ∈ g.portPairs) :
    v.groupOfPair pairId = some g := by
  cases hfind : v.groupOfPair pairId with
  | none => exact absurd hlisted (Inventory.groupOfPair_eq_none.1 hfind g hg)
  | some g' =>
    obtain ⟨hg', hlisted'⟩ := Inventory.groupOfPair_eq_some hfind
    rw [h.eq_of_listed hg hg' hlisted hlisted']

theorem congr (h : v.Linked) (hpairs : w.portPairs = v.portPairs)
    (hgroups : w.portPairGroups = v.portPairGroups) (hchains : w.portChains = v.portChains) :
    w.Linked := by
  cases v
  cases w
  subst hpairs hgroups hchains
  exact ⟨h.ends, h.pairsStored, h.pairsOnce, h.filled, h.groupsStored, h.groupsApart⟩

theorem addPair (h : s.Linked) {r : PortPair}
    (hends : ∀ p ∈ s.portPairs, (p.ingress, p.egress) ≠ (r.ingress, r.egress)) :
    (s.add ids .portPair r).Linked where
  ends := by
    have hadd : (s.add ids .portPair r).portPairs = s.portPairs ++ [s.issue ids .portPair r] := rfl
    rw [hadd, List.map_append, List.nodup_append]
    refine ⟨h.ends, List.nodup_singleton _, fun x hx y hy ↦ ?_⟩
    obtain ⟨p, hp, rfl⟩ := List.mem_map.1 hx
    rw [List.map_singleton, List.mem_singleton] at hy
    exact hy ▸ hends p hp
  pairsStored g hg id hid := Service.stores_add .portPair r (h.pairsStored g hg id hid)
  pairsOnce := h.pairsOnce
  filled := h.filled
  groupsStored := h.groupsStored
  groupsApart := h.groupsApart

theorem addGroup (h : s.Linked) {r : PortPairGroup} {id : String} (hpairs : r.portPairs = [id])
    (hstored : s.Stores .portPair id) (hfree : s.Free id .portPair) :
    (s.add ids .portPairGroup r).Linked := by
  have hadd : (s.add ids .portPairGroup r).portPairGroups =
      s.portPairGroups ++ [s.issue ids .portPairGroup r] := rfl
  have hissue : (s.issue ids .portPairGroup r).portPairs = [id] := hpairs
  refine ⟨h.ends, ?_, ?_, ?_, ?_, h.groupsApart⟩
  · rw [hadd]
    intro g hg x hx
    rcases List.mem_append.1 hg with hg | hg
    · exact h.pairsStored g hg x hx
    · rw [List.mem_singleton.1 hg, hissue, List.mem_singleton] at hx
      exact hx ▸ hstored
  · rw [hadd, List.flatMap_append, List.flatMap_singleton, hissue, List.nodup_append]
    refine ⟨h.pairsOnce, List.nodup_singleton _, fun x hx y hy ↦ ?_⟩
    obtain ⟨g, hg, hxg⟩ := List.mem_flatMap.1 hx
    rintro rfl
    exact hfree g hg (List.mem_singleton.1 hy ▸ hxg)
  · rw [hadd]
    intro g hg
    rcases List.mem_append.1 hg with hg | hg
    · exact h.filled g hg
    · rw [List.mem_singleton.1 hg, hissue]
      exact List.cons_ne_nil _ _
  · exact fun c hc x hx ↦ Service.stores_add .portPairGroup r (h.groupsStored c hc x hx)

theorem amendGroup (h : s.Linked) {l₁ l₂ : List PortPairGroup} {g g' : PortPairGroup}
    (hsplit : s.portPairGroups = l₁ ++ g :: l₂) (hid : g'.id = g.id)
    (hstored : ∀ id ∈ g'.portPairs, s.Stores .portPair id)
    (honce : ((l₁ ++ g' :: l₂).flatMap PortPairGroup.portPairs).Nodup)
    (hfilled : g'.portPairs ≠ []) : (s.put .portPairGroup (l₁ ++ g' :: l₂)).Linked := by
  have hmem {x : PortPairGroup} (hx : x ∈ l₁ ++ g' :: l₂) : x = g' ∨ x ∈ s.portPairGroups := by
    rw [hsplit]
    grind
  refine ⟨h.ends, ?_, honce, ?_, ?_, h.groupsApart⟩
  · intro x hx id hxid
    rcases hmem hx with rfl | hx
    · exact hstored id hxid
    · exact h.pairsStored x hx id hxid
  · intro x hx
    rcases hmem hx with rfl | hx
    · exact hfilled
    · exact h.filled x hx
  · exact fun c hc id hcid ↦
      Service.stores_amend .portPairGroup hsplit hid (h.groupsStored c hc id hcid)

theorem amendChain (h : s.Linked) {l₁ l₂ : List PortChain} {c c' : PortChain}
    (hsplit : s.portChains = l₁ ++ c :: l₂)
    (hstored : ∀ id ∈ c'.portPairGroups, s.Stores .portPairGroup id)
    (hapart : ∀ d ∈ l₁ ++ l₂, ∀ id ∈ c'.portPairGroups, id ∉ d.portPairGroups) :
    (s.put .portChain (l₁ ++ c' :: l₂)).Linked := by
  have hsymm : ∀ {c d : PortChain}, (∀ id ∈ c.portPairGroups, id ∉ d.portPairGroups) →
      ∀ id ∈ d.portPairGroups, id ∉ c.portPairGroups := fun h id hd hc ↦ h id hc hd
  refine ⟨h.ends, h.pairsStored, h.pairsOnce, h.filled, ?_, ?_⟩
  · intro d hd id hdid
    rcases List.mem_append.1 hd with hd | hd
    · exact h.groupsStored d (by simp [hsplit, hd]) id hdid
    · rcases List.mem_cons.1 hd with rfl | hd
      · exact hstored id hdid
      · exact h.groupsStored d (by simp [hsplit, hd]) id hdid
  · have hold := h.groupsApart
    rw [hsplit, List.pairwise_middle hsymm] at hold
    exact (List.pairwise_middle hsymm).2
      (List.pairwise_cons.2 ⟨hapart, (List.pairwise_cons.1 hold).2⟩)

theorem rehook (h : s.Linked) {l₁ l₂ : List PortChain} {c c' : PortChain}
    (hsplit : s.portChains = l₁ ++ c :: l₂) (hgroups : c'.portPairGroups = c.portPairGroups) :
    (s.put .portChain (l₁ ++ c' :: l₂)).Linked := by
  refine h.amendChain hsplit ?_ ?_
  · exact hgroups ▸ h.groupsStored c (by simp [hsplit])
  · have hold := h.groupsApart
    rw [hsplit, List.pairwise_middle fun h id hd hc ↦ h id hc hd] at hold
    exact hgroups ▸ (List.pairwise_cons.1 hold).1

theorem drop (h : s.Linked) (kind : Kind) {l₁ l₂ : List kind.Resource} {r : kind.Resource}
    (hport : kind ≠ .port) (hsplit : s.get kind = l₁ ++ r :: l₂)
    (hfree : s.Free (kind.key r) kind) : (s.put kind (l₁ ++ l₂)).Linked := by
  have hsub : List.Sublist (l₁ ++ l₂) (s.get kind) :=
    hsplit ▸ (List.Sublist.refl l₁).append (List.sublist_cons_self r l₂)
  cases kind with
  | port => exact absurd rfl hport
  | portPair =>
    refine ⟨h.ends.sublist (hsub.map _), ?_, h.pairsOnce, h.filled, h.groupsStored, h.groupsApart⟩
    intro g hg id hid
    exact Service.stores_remove .portPair hsplit (fun he ↦ hfree g hg (he ▸ hid))
      (h.pairsStored g hg id hid)
  | portPairGroup =>
    have hmem {g : PortPairGroup} (hg : g ∈ l₁ ++ l₂) : g ∈ s.portPairGroups := hsub.subset hg
    refine ⟨h.ends, fun g hg ↦ h.pairsStored g (hmem hg), ?_, fun g hg ↦ h.filled g (hmem hg), ?_,
      h.groupsApart⟩
    · have honce := h.pairsOnce
      rw [show s.portPairGroups = l₁ ++ r :: l₂ from hsplit] at honce
      exact honce.sublist sublist_flatMap_remove
    · intro c hc id hid
      exact Service.stores_remove .portPairGroup hsplit (fun he ↦ hfree c hc (he ▸ hid))
        (h.groupsStored c hc id hid)
  | portChain =>
    exact ⟨h.ends, h.pairsStored, h.pairsOnce, h.filled,
      fun c hc ↦ h.groupsStored c (hsub.subset hc), h.groupsApart.sublist hsub⟩
  | flowClassifier => exact h.congr rfl rfl rfl

theorem addChain (h : s.Linked) {r : PortChain} (hgroups : s.Chainable r.portPairGroups none) :
    (s.add ids .portChain r).Linked := by
  have hadd : (s.add ids .portChain r).portChains = s.portChains ++ [s.issue ids .portChain r] :=
    rfl
  have hissue : (s.issue ids .portChain r).portPairGroups = r.portPairGroups := rfl
  refine ⟨h.ends, h.pairsStored, h.pairsOnce, h.filled, ?_, ?_⟩
  · rw [hadd]
    intro c hc id hid
    rcases List.mem_append.1 hc with hc | hc
    · exact h.groupsStored c hc id hid
    · rw [List.mem_singleton.1 hc, hissue] at hid
      exact (hgroups.1 id hid).2
  · rw [hadd, List.pairwise_append]
    refine ⟨h.groupsApart, List.pairwise_singleton _ _, fun c hc d hd id hid hid' ↦ ?_⟩
    rw [List.mem_singleton.1 hd, hissue] at hid'
    exact hgroups.2 id hid' c hc nofun hid

theorem chainStep (h : s.Linked) (hs : s.Sound ids) (hstep : ChainStep ids s t) : t.Linked := by
  cases hstep with
  | addPair r hends => exact h.addPair hends
  | addGroup r hpairs hstored hfree => exact h.addGroup hpairs hstored hfree
  | @join l₁ l₂ g id hsplit hstored hfree =>
    refine h.amendGroup hsplit rfl ?_ ?_ (by simp)
    · intro x hx
      rcases List.mem_append.1 hx with hx | hx
      · exact h.pairsStored g (by simp [hsplit]) x hx
      · exact List.mem_singleton.1 hx ▸ hstored
    · exact nodup_flatMap_extend (hsplit ▸ h.pairsOnce) (fun b hb ↦ hfree b (hsplit ▸ hb)) rfl
  | @leave l₁ l₂ g id hsplit hleft =>
    have hsub : List.Sublist (g.portPairs.filter (· ≠ id)) g.portPairs := List.filter_sublist
    refine h.amendGroup hsplit rfl ?_ ?_ hleft
    · exact fun x hx ↦ h.pairsStored g (by simp [hsplit]) x (hsub.subset hx)
    · exact (hsplit ▸ h.pairsOnce : ((l₁ ++ g :: l₂).flatMap _).Nodup).sublist
        (sublist_flatMap_amend hsub)
  | addChain r hgroups hhooks => exact h.addChain hgroups
  | @regroup l₁ l₂ c groupIds hsplit hgroups =>
    refine h.amendChain hsplit (fun id hid ↦ (hgroups.1 id hid).2) ?_
    intro d hd id hid
    have hmem : d ∈ s.portChains := by
      rw [hsplit]
      grind
    refine hgroups.2 id hid d hmem fun a ha hda ↦ ?_
    have hkey : Kind.portChain.key d = Kind.portChain.key c :=
      congrArg (Option.getD · "") (hda.trans (Option.mem_def.1 ha).symm)
    have hchains : s.get .portChain = l₁ ++ c :: l₂ := hsplit
    obtain ⟨hleft, hright⟩ := hs.keys_ne hchains
    rcases List.mem_append.1 hd with hd | hd
    · exact hleft d hd hkey
    · exact hright d hd hkey
  | attach hsplit hstored hfree => exact h.rehook hsplit rfl
  | detach hookId hsplit => exact h.rehook hsplit rfl
  | drop hport hhook hsplit hfree => exact h.drop _ hport hsplit hfree

theorem step (h : s.Linked) (hs : s.Sound ids) (hstep : Step key ids s t) : t.Linked := by
  cases hstep with
  | chain hchain => exact h.chainStep hs hchain
  | draw => exact h.congr rfl rfl rfl
  | addClassifier r => exact h.congr rfl rfl rfl
  | hook r hsplit hid => exact h.congr rfl rfl rfl
  | untag hsplit => exact h.congr rfl rfl rfl
  | dropClassifier hsplit hfree => exact h.congr rfl rfl rfl

end Inventory.Linked

/-- Chains list stored classifiers, and no classifier twice. -/
structure Inventory.Attached (v : Inventory) : Prop where
  stored : ∀ c ∈ v.portChains, ∀ id ∈ c.flowClassifiers, v.Stores .flowClassifier id
  once : (v.portChains.flatMap PortChain.flowClassifiers).Nodup

namespace Inventory.Attached

variable {v w : Inventory} {key : String} {ids : Nat → String} {s t : Service}
  {l₁ l₂ : List PortChain} {c c' : PortChain} {hookId : String}

theorem others (h : v.Attached) (hsplit : v.portChains = l₁ ++ c :: l₂)
    (hlisted : hookId ∈ c.flowClassifiers) : ∀ d ∈ l₁ ++ l₂, hookId ∉ d.flowClassifiers :=
  eq_of_nodup_flatMap (hsplit ▸ h.once) hlisted

theorem eq_of_listed (h : v.Attached) (hc : c ∈ v.portChains) (hc' : c' ∈ v.portChains)
    (hlisted : hookId ∈ c.flowClassifiers) (hlisted' : hookId ∈ c'.flowClassifiers) : c' = c := by
  obtain ⟨l₁, l₂, hsplit⟩ := List.append_of_mem hc
  exact same_of_nodup_flatMap (hsplit ▸ h.once) hlisted (hsplit ▸ hc') hlisted'

theorem chainOfClassifier (h : v.Attached) (hc : c ∈ v.portChains)
    (hlisted : hookId ∈ c.flowClassifiers) : v.chainOfClassifier hookId = some c := by
  cases hfind : v.chainOfClassifier hookId with
  | none => exact absurd hlisted (Inventory.chainOfClassifier_eq_none.1 hfind c hc)
  | some d =>
    obtain ⟨hd, hdlisted⟩ := Inventory.chainOfClassifier_eq_some hfind
    rw [h.eq_of_listed hc hd hlisted hdlisted]

theorem congr (h : v.Attached) (hchains : w.portChains = v.portChains)
    (hhooks : w.flowClassifiers = v.flowClassifiers) : w.Attached := by
  cases v
  cases w
  subst hchains hhooks
  exact ⟨h.stored, h.once⟩

theorem amendChain (h : s.Attached) (hsplit : s.portChains = l₁ ++ c :: l₂)
    (hstored : ∀ id ∈ c'.flowClassifiers, s.Stores .flowClassifier id)
    (honce : ((l₁ ++ c' :: l₂).flatMap PortChain.flowClassifiers).Nodup) :
    (s.put .portChain (l₁ ++ c' :: l₂)).Attached := by
  refine ⟨fun d hd id hid ↦ ?_, honce⟩
  rcases List.mem_append.1 hd with hd | hd
  · exact h.stored d (by simp [hsplit, hd]) id hid
  · rcases List.mem_cons.1 hd with rfl | hd
    · exact hstored id hid
    · exact h.stored d (by simp [hsplit, hd]) id hid

theorem shrink (h : s.Attached) (hsplit : s.portChains = l₁ ++ c :: l₂)
    (hsub : List.Sublist c'.flowClassifiers c.flowClassifiers) :
    (s.put .portChain (l₁ ++ c' :: l₂)).Attached := by
  have honce := h.once
  rw [hsplit] at honce
  refine h.amendChain hsplit ?_ (honce.sublist (sublist_flatMap_amend hsub))
  exact fun id hid ↦ h.stored c (by simp [hsplit]) id (hsub.subset hid)

theorem drop (h : s.Attached) (kind : Kind) {l₁ l₂ : List kind.Resource} {r : kind.Resource}
    (hsplit : s.get kind = l₁ ++ r :: l₂) (hfree : s.Free (kind.key r) kind) :
    (s.put kind (l₁ ++ l₂)).Attached := by
  cases kind with
  | port | portPair | portPairGroup => exact h.congr rfl rfl
  | portChain =>
    have hsub : List.Sublist (l₁ ++ l₂) s.portChains :=
      (show s.portChains = _ from hsplit) ▸
        (List.Sublist.refl l₁).append (List.sublist_cons_self r l₂)
    have honce := h.once
    rw [show s.portChains = l₁ ++ r :: l₂ from hsplit] at honce
    exact ⟨fun c hc ↦ h.stored c (hsub.subset hc), honce.sublist sublist_flatMap_remove⟩
  | flowClassifier =>
    refine ⟨fun c hc id hid ↦ ?_, h.once⟩
    exact Service.stores_remove .flowClassifier hsplit (fun he ↦ hfree c hc (he ▸ hid))
      (h.stored c hc id hid)

theorem addClassifier (h : s.Attached) (r : FlowClassifier) :
    (s.add ids .flowClassifier r).Attached :=
  ⟨fun c hc id hid ↦ Service.stores_add .flowClassifier r (h.stored c hc id hid), h.once⟩

theorem chainStep (h : s.Attached) (hstep : ChainStep ids s t) : t.Attached := by
  cases hstep with
  | addPair r hends => exact h.congr rfl rfl
  | addGroup r hpairs hstored hfree => exact h.congr rfl rfl
  | join hsplit hstored hfree => exact h.congr rfl rfl
  | leave hsplit hleft => exact h.congr rfl rfl
  | addChain r hgroups hhooks =>
    have hadd : (s.add ids .portChain r).portChains = s.portChains ++ [s.issue ids .portChain r] :=
      rfl
    have hissue : (s.issue ids .portChain r).flowClassifiers = [] := hhooks
    refine ⟨?_, ?_⟩
    · rw [hadd]
      intro c hc id hid
      rcases List.mem_append.1 hc with hc | hc
      · exact h.stored c hc id hid
      · rw [List.mem_singleton.1 hc, hissue] at hid
        exact absurd hid List.not_mem_nil
    · rw [hadd, List.flatMap_append, List.flatMap_singleton, hissue, List.append_nil]
      exact h.once
  | regroup hsplit hgroups => exact h.shrink hsplit (List.Sublist.refl _)
  | @attach l₁ l₂ c hookId hsplit hstored hfree =>
    have honce := h.once
    rw [hsplit] at honce
    refine h.amendChain hsplit ?_ ?_
    · intro id hid
      rcases List.mem_append.1 hid with hid | hid
      · exact h.stored c (by simp [hsplit]) id hid
      · exact List.mem_singleton.1 hid ▸ hstored
    · exact nodup_flatMap_extend honce (fun d hd ↦ hfree d (hsplit ▸ hd)) rfl
  | detach hookId hsplit => exact h.shrink hsplit List.filter_sublist
  | drop hport hhook hsplit hfree => exact h.drop _ hsplit hfree

theorem step (h : s.Attached) (hstep : Step key ids s t) : t.Attached := by
  cases hstep with
  | chain hchain => exact h.chainStep hchain
  | draw => exact h.congr rfl rfl
  | addClassifier r => exact h.addClassifier r
  | hook r hsplit hid =>
    have hadd : (s.add ids .flowClassifier r).Attached := h.addClassifier r
    exact hadd.congr rfl rfl
  | untag hsplit => exact h.congr rfl rfl
  | dropClassifier hsplit hfree => exact h.drop .flowClassifier hsplit hfree

end Inventory.Attached

structure Service.Valid (ids : Nat → String) (s : Service) : Prop where
  sound : s.Sound ids
  linked : s.Linked
  attached : s.Attached

namespace Service.Valid

variable {key : String} {ids : Nat → String} {s t : Service}

theorem step (h : s.Valid ids) (hids : Function.Injective ids) (hstep : Step key ids s t) :
    t.Valid ids :=
  ⟨h.sound.step hids hstep, h.linked.step h.sound hstep, h.attached.step hstep⟩

theorem steps (h : s.Valid ids) (hids : Function.Injective ids) (hsteps : Steps key ids s t) :
    t.Valid ids := by
  induction hsteps with
  | refl => exact h
  | tail _ hstep ih => exact ih.step hids hstep

theorem chainSteps (h : s.Valid ids) (hids : Function.Injective ids)
    (hsteps : ChainSteps ids s t) : t.Valid ids := by
  have hsteps : Steps "" ids s t := hsteps.steps
  exact h.steps hids hsteps

end Service.Valid

end TrafficSteering
