import Mathlib.Data.Finset.Lattice.Lemmas
import TrafficSteering.Proofs.Engine.Trees

namespace TrafficSteering

open Engine HookTag

variable {key : String} {ids : Nat → String} {s t : Service} {m : Memory} {hookId : String}
  {hooks : Finset String}

def Port.untagged (key : String) (hooks : Finset String) (p : Port) : Port :=
  if ∃ hookId ∈ hooks, tag? key p = some hookId then
    { p with profile := p.profile.map (·.erase key) }
  else p

def PortChain.unlisted (hooks : Finset String) (c : PortChain) : PortChain :=
  { c with flowClassifiers := c.flowClassifiers.filter (· ∉ hooks) }

def Inventory.withoutHooks (key : String) (hooks : Finset String) (v : Inventory) : Inventory :=
  { v with
    ports := v.ports.map (Port.untagged key hooks)
    portChains := v.portChains.map (PortChain.unlisted hooks)
    flowClassifiers := v.flowClassifiers.filter fun c ↦ Kind.flowClassifier.key c ∉ hooks }

section

variable {p : Port} {c : PortChain}

theorem retagged_none (htag : tag? key p = some hookId) :
    retagged key p none = { p with profile := p.profile.map (·.erase key) } := by
  obtain ⟨profile, hprofile, -⟩ := Option.bind_eq_some_iff.1 htag
  rw [retagged, hprofile]
  rfl

theorem Port.untagged_of_tag (htag : tag? key p = some hookId) (hmem : hookId ∈ hooks) :
    p.untagged key hooks = retagged key p none := by
  rw [untagged, if_pos ⟨hookId, hmem, htag⟩, retagged_none htag]

theorem Port.untagged_of_not (h : ∀ hookId ∈ hooks, tag? key p ≠ some hookId) :
    p.untagged key hooks = p := if_neg fun ⟨hookId, hmem, htag⟩ ↦ h hookId hmem htag

theorem Port.untagged_untagged (hooks hooks' : Finset String) :
    (p.untagged key hooks).untagged key hooks' = p.untagged key (hooks ∪ hooks') := by
  by_cases h : ∃ hookId ∈ hooks, tag? key p = some hookId
  · obtain ⟨hookId, hmem, htag⟩ := h
    rw [untagged_of_tag htag hmem, untagged_of_tag htag (Finset.mem_union_left _ hmem)]
    exact untagged_of_not fun _ _ ↦ by simp [tag?_retagged]
  · have hnot : ∀ hookId ∈ hooks, tag? key p ≠ some hookId := fun hookId hmem htag ↦
      h ⟨hookId, hmem, htag⟩
    rw [untagged_of_not hnot, untagged, untagged]
    refine if_congr ?_ rfl rfl
    simp only [Finset.mem_union, or_and_right, exists_or, h, false_or]

theorem PortChain.unlisted_of_free (h : ∀ hookId ∈ hooks, hookId ∉ c.flowClassifiers) :
    c.unlisted hooks = c := by
  have hkept : c.flowClassifiers.filter (· ∉ hooks) = c.flowClassifiers :=
    List.filter_eq_self.2 fun hookId hlisted ↦ decide_eq_true fun hmem ↦ h hookId hmem hlisted
  rw [unlisted, hkept]

theorem PortChain.unlisted_unlisted (hooks hooks' : Finset String) :
    (c.unlisted hooks).unlisted hooks' = c.unlisted (hooks ∪ hooks') := by
  simp only [unlisted, List.filter_filter, Finset.mem_union, not_or, Bool.decide_and, Bool.and_comm]

end

section

variable {α : Type} {f : α → α} {l l₁ l₂ : List α} {a : α}

theorem map_fixed (h : ∀ x ∈ l, f x = x) : l.map f = l :=
  (List.map_congr_left h).trans (List.map_id l)

theorem map_split (h : ∀ x ∈ l₁ ++ l₂, f x = x) : (l₁ ++ a :: l₂).map f = l₁ ++ f a :: l₂ := by
  rw [List.map_append, List.map_cons, map_fixed fun x hx ↦ h x (List.mem_append_left _ hx),
    map_fixed fun x hx ↦ h x (List.mem_append_right _ hx)]

end

namespace Inventory

variable (v : Inventory)

theorem withoutHooks_empty : v.withoutHooks key ∅ = v := by
  have hnone {P : String → Prop} : ∀ hookId ∈ (∅ : Finset String), P hookId := by simp
  rw [withoutHooks, map_fixed fun p _ ↦ Port.untagged_of_not hnone,
    map_fixed fun c _ ↦ PortChain.unlisted_of_free hnone, List.filter_eq_self.2 (by simp)]

theorem withoutHooks_withoutHooks (hooks hooks' : Finset String) :
    (v.withoutHooks key hooks).withoutHooks key hooks' = v.withoutHooks key (hooks ∪ hooks') := by
  simp only [withoutHooks, List.map_map, List.filter_filter, Function.comp_def,
    Port.untagged_untagged, PortChain.unlisted_unlisted, Finset.mem_union, not_or,
    Bool.decide_and, Bool.and_comm]

end Inventory

theorem PortChain.unlisted_of_not_mem {c : PortChain} (h : hookId ∉ c.flowClassifiers) :
    c.unlisted {hookId} = c :=
  unlisted_of_free fun _ hmem ↦ Finset.mem_singleton.1 hmem ▸ h

theorem map_unlisted_of_free (h : s.Free hookId .flowClassifier) :
    s.portChains.map (PortChain.unlisted {hookId}) = s.portChains :=
  map_fixed fun c hc ↦ PortChain.unlisted_of_not_mem (h c hc)

theorem filter_of_gone (h : s.find? .flowClassifier hookId = none) :
    (s.flowClassifiers.filter fun c ↦ Kind.flowClassifier.key c ∉ ({hookId} : Finset String)) =
      s.flowClassifiers :=
  List.filter_eq_self.2 fun c hc ↦ decide_eq_true fun hmem ↦
    Inventory.find?_eq_none.1 h c hc (Finset.mem_singleton.1 hmem)

theorem Detached.eq {b : Bool} (h : Detached hookId s b t) (ha : s.Attached) :
    t = s.put .portChain (s.portChains.map (PortChain.unlisted {hookId})) := by
  cases h with
  | unlisted hfree =>
    rw [map_unlisted_of_free hfree]
    exact (Service.put_eq_self .portChain rfl).symm
  | @listed l₁ l₂ c hsplit hlisted =>
    have hothers := ha.others hsplit hlisted
    rw [hsplit, map_split fun d hd ↦ PortChain.unlisted_of_not_mem (hothers d hd),
      PortChain.unlisted]
    simp only [Finset.mem_singleton, ne_eq]

theorem Cleared.eq (h : Cleared key hookId s t) (hs : s.Sound ids) (ht : s.Tagged key ids) :
    t = s.put .port (s.ports.map (Port.untagged key {hookId})) := by
  have hkept {p : Port} (hp : tag? key p ≠ some hookId) : p.untagged key {hookId} = p :=
    Port.untagged_of_not fun _ hmem ↦ Finset.mem_singleton.1 hmem ▸ hp
  cases h with
  | bare hnone =>
    rw [map_fixed fun p hp ↦ hkept (hnone p hp)]
    exact (Service.put_eq_self .port rfl).symm
  | @tagged l₁ l₂ p hsplit htag =>
    have hothers := ht.others hs hsplit htag
    rw [hsplit, map_split fun q hq ↦ hkept (hothers q hq),
      Port.untagged_of_tag htag (Finset.mem_singleton_self hookId)]

theorem Deleted.eq (h : Deleted .never .flowClassifier hookId s t) (hs : s.Sound ids) :
    t = s.put .flowClassifier (s.flowClassifiers.filter fun c ↦
      Kind.flowClassifier.key c ∉ ({hookId} : Finset String)) := by
  obtain ⟨rfl, hgone | hfeigns⟩ | ⟨l₁, c, l₂, hsplit, rfl, -, rfl⟩ := h
  · rw [filter_of_gone hgone]
    exact (Service.put_eq_self .flowClassifier rfl).symm
  · exact absurd hfeigns (Faults.not_feigns_never _)
  · obtain ⟨hleft, hright⟩ := hs.keys_ne hsplit
    have hclassifiers : s.flowClassifiers = l₁ ++ c :: l₂ := hsplit
    have hkept {l : List FlowClassifier}
        (hl : ∀ x ∈ l, Kind.flowClassifier.key x ≠ Kind.flowClassifier.key c) :
        (l.filter fun x ↦ Kind.flowClassifier.key x ∉
          ({Kind.flowClassifier.key c} : Finset String)) = l :=
      List.filter_eq_self.2 fun x hx ↦ decide_eq_true fun hmem ↦
        hl x hx (Finset.mem_singleton.1 hmem)
    rw [hclassifiers, List.filter_append, List.filter_cons_of_neg (by simp), hkept hleft,
      hkept hright]

/-- A removal takes all traces of the hook away, whether its classifier is stored or not. -/
theorem Service.Orderly.removeHook (h : s.Orderly key ids) (hvisible : Text.blank hookId = false) :
    calm ids (removeHook key hookId) s =
      (.ok (), { s with toInventory := s.withoutHooks key {hookId} : Service }.memory []) := by
  have hs := h.valid.sound
  have hnamed : Guard.requireText (some hookId) "Inspection Hook Id" = .ok hookId :=
    Guard.requireText_eq_ok_iff.2 ⟨rfl, hvisible⟩
  cases hfind : s.find? .flowClassifier hookId with
  | none =>
    have hends : Ends ids .never (Engine.removeHook key hookId) s _ _ :=
      Ends.removeHook_gone hs hnamed hfind
    obtain ⟨t, ⟨_, -, -, hpossible | hnot⟩ | ⟨_, hrun, hcleared⟩⟩ := hends.calm_cases
    · exact absurd hpossible Faults.not_possible_never
    · exact absurd h.tagged.named hnot
    have hfree : s.Free hookId .flowClassifier := fun c hc hlisted ↦
      hs.find?_eq_none_iff.1 hfind (h.valid.attached.stored c hc hookId hlisted)
    rw [hrun, hcleared.eq hs h.tagged, Inventory.withoutHooks, map_unlisted_of_free hfree,
      filter_of_gone hfind]
    rfl
  | some classifier =>
    have hstuck : ¬ s.Stuck hookId := fun ⟨c, hc, _, hempty⟩ ↦
      h.id_ne .portChain (by decide) hc hempty
    obtain ⟨u, w, t, hstages⟩ := exists_hookStages h.distinct h.visible h.valid h.tagged
      (Guard.ne_of_requireText hnamed)
    obtain ⟨b, hu⟩ := hstages.detached
    have hw := hstages.deleted.eq (hstages.sound 1)
    have ht := hstages.cleared.eq (hstages.sound 2) (hstages.taggedAfter h.distinct)
    rw [calm_removeHook h.valid h.distinct h.tagged hvisible (hs.stores_of_find? hfind) hstuck hu
      hstages.deleted hstages.cleared, ht, hw, hu.eq h.valid.attached]
    rfl

def removals (hooks : List String) : List Event :=
  hooks.map fun hookId ↦ .request (.removeHook hookId)

theorem Service.Orderly.withoutHook (h : s.Orderly key ids) (hvisible : Text.blank hookId = false) :
    ({ s with toInventory := s.withoutHooks key {hookId} } : Service).Orderly key ids :=
  h.after (.removeHook hookId) (h.removeHook hvisible)

theorem Service.Orderly.sweep (h : s.Orderly key ids) {hooks : List String}
    (hvisible : ∀ hookId ∈ hooks, Text.blank hookId = false) :
    TrafficSteering.history key ids (s.memory []) (removals hooks) =
        { s with toInventory := s.withoutHooks key hooks.toFinset : Service }.memory [] ∧
      ({ s with toInventory := s.withoutHooks key hooks.toFinset } : Service).Orderly key ids := by
  induction hooks generalizing s with
  | nil =>
    rw [List.toFinset_nil, Inventory.withoutHooks_empty]
    exact ⟨rfl, h⟩
  | cons hookId rest ih =>
    obtain ⟨hhook, hrest⟩ := List.forall_mem_cons.1 hvisible
    have hstep : (Event.request (.removeHook hookId)).apply key ids (s.memory []) = _ :=
      congrArg Prod.snd (h.removeHook hhook)
    obtain ⟨hrun, horderly⟩ := ih (h.withoutHook hhook) hrest
    rw [Inventory.withoutHooks_withoutHooks, ← Finset.insert_eq,
      ← List.toFinset_cons] at hrun horderly
    refine ⟨?_, horderly⟩
    rw [removals, TrafficSteering.history, List.map_cons, List.foldl_cons, hstep]
    exact hrun

/-- Whatever hooks are named, each removal in turn succeeds, and what is left in the end depends on
the set of their ids alone. -/
theorem hooks_removed_in_turn (hids : Function.Injective ids)
    (hblank : ∀ n, Text.blank (ids n) = false) (hm : Reachable key ids m)
    (hcalm : m.failures = []) :
    ∃ v : Inventory, m.collections = v.collections ∧
      ∀ hooks : List String, (∀ hookId ∈ hooks, Text.blank hookId = false) →
        (∀ before hookId after, hooks = before ++ hookId :: after →
          ((Request.removeHook hookId).run key ids (history key ids m (removals before))).1 =
            .ok ()) ∧
        history key ids m (removals hooks) =
          { m with collections := (v.withoutHooks key hooks.toFinset).collections } := by
  obtain ⟨s, rfl, h⟩ := hm.calm_orderly hids hblank hcalm
  refine ⟨s.toInventory, rfl, fun hooks hvisible ↦ ⟨?_, (h.sweep hvisible).1⟩⟩
  rintro before hookId after rfl
  obtain ⟨hbefore, hafter⟩ := List.forall_mem_append.1 hvisible
  obtain ⟨hrun, horderly⟩ := h.sweep hbefore
  rw [hrun]
  exact congrArg Prod.fst (horderly.removeHook (List.forall_mem_cons.1 hafter).1)

namespace Sample

def install : Event := .request (.installHook inspected chain)

def stale : Memory :=
  history defaultKey numberedId (seeded numberedId "project" ports)
    (events ++ [install, .failAfter { kind := .port, operation := .update, status := some 503 },
      .request (.removeHook (numberedId 5))])

end Sample

theorem sample_swept :
    Function.Injective numberedId ∧ (∀ n, Text.blank (numberedId n) = false) ∧
      Reachable defaultKey numberedId Sample.stale ∧ Sample.stale.failures = [] ∧
      (∀ hookId ∈ ["unknown", numberedId 5, "unknown"], Text.blank hookId = false) ∧
      ((Request.removeHook (numberedId 5)).run defaultKey numberedId
        (history defaultKey numberedId Sample.stale (removals ["unknown"]))).1 = .ok () ∧
      ∃ v : Inventory, v.ports.filterMap (tag? defaultKey) = [numberedId 5] ∧
        history defaultKey numberedId Sample.stale
            (removals ["unknown", numberedId 5, "unknown"]) =
          { Sample.stale with collections := (v.withoutHooks defaultKey
            ["unknown", numberedId 5, "unknown"].toFinset).collections } := by
  have hreachable : Reachable defaultKey numberedId Sample.stale :=
    ⟨"project", Sample.ports, _, by decide, rfl⟩
  have hvisible : ∀ hookId ∈ ["unknown", numberedId 5, "unknown"],
      Text.blank hookId = false := by
    have hunknown : Text.blank "unknown" = false := by decide
    simp [numberedId_not_blank, hunknown]
  obtain ⟨v, hv, hswept⟩ := hooks_removed_in_turn numberedId_injective numberedId_not_blank
    hreachable rfl
  obtain ⟨hsteps, hlast⟩ := hswept _ hvisible
  have hports : v.ports = [{ id := some "left" }, { id := some "right" },
      { id := some "inspected",
        profile := some (Dict.empty.insert defaultKey (.str (numberedId 5))) }] :=
    Kind.port.written_injective ((congrArg Collections.ports hv).symm.trans rfl)
  exact ⟨numberedId_injective, numberedId_not_blank, hreachable, rfl, hvisible,
    hsteps ["unknown"] _ ["unknown"] rfl, v, by rw [hports]; rfl, hlast⟩

end TrafficSteering
