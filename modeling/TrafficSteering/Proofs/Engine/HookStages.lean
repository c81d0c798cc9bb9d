import Mathlib.Data.Nat.Basic
import Mathlib.Order.RelClasses
import TrafficSteering.Proofs.Engine.HookRetries
import TrafficSteering.Proofs.Service.Clients

namespace TrafficSteering

open Engine HookTag

variable {key : String} {ids : Nat → String} {s t u w : Service} {hookId : String}

/-- The service as it stands first, after one change, after another, and from then on. -/
def stages (s u w t : Service) : Nat → Service
  | 0 => s
  | 1 => u
  | 2 => w
  | _ => t

/-- From a stage on, the program and all others lead from stages to later ones. -/
abbrev Climbs {α : Type} (ids : Nat → String) (stage : Nat → Service)
    (Q : Except Error α → Nat → Prop) (p : Program α) (i : Nat) : Prop :=
  Abides (Memory.transport ids) (fun j ↦ (stage j).memory []) (· ≤ ·) (· ≤ ·) Q p i

abbrev Finds {α : Type} (ids : Nat → String) (stage : Nat → Service) (P : α → Nat → Prop)
    (p : Program α) (i : Nat) : Prop := Climbs ids stage (fun r j ↦ ∃ a, r = .ok a ∧ P a j) p i

namespace Climbs

variable {α β : Type} {stage : Nat → Service} {Q : Except Error α → Nat → Prop} {p : Program β}
  {f : β → Program α} {P : β → Nat → Prop} {i j : Nat} {a : α}

theorem value (h : ∀ j, i ≤ j → Q (.ok a) j) : Climbs ids stage Q (pure a) i := h

theorem bindFound (hp : Finds ids stage P p i) (hf : ∀ b j, P b j → Climbs ids stage Q (f b) j) :
    Climbs ids stage Q (p >>= f) i := by
  refine Abides.bind hp ?_ ?_
  · rintro e j ⟨b, ⟨⟩, -⟩
  · rintro b j ⟨_, ⟨⟩, hb⟩
    exact hf b j hb

theorem read (hp : p.Single) {value : Nat → β}
    (hread : ∀ j, i ≤ j → Atomic ids .never p (stage j) (.ok (value j)) (stage j))
    (h : ∀ j, i ≤ j → Climbs ids stage Q (f (value j)) j) : Climbs ids stage Q (p >>= f) i :=
  Abides.step hp fun j hj ↦ ⟨value j, j, (hread j hj).run_eq, Nat.le_refl j, h j hj⟩

end Climbs

theorem Finds.mapFound {α : Type} {stage : Nat → Service} {P : α → Nat → Prop} {p : Program α}
    {i : Nat} (h : Finds ids stage P p i) (g : Error → Error) :
    Finds ids stage P (p.mapError g) i := by
  refine Abides.mapError (Abides.mono h ?_)
  rintro _ j ⟨a, rfl, ha⟩
  exact ⟨a, rfl, ha⟩

/-- From this stage on the service stays as it is. -/
def Lasts (stage : Nat → Service) (t : Service) (i : Nat) : Prop := ∀ j, i ≤ j → stage j = t

theorem Lasts.later {stage : Nat → Service} {i j : Nat} (h : Lasts stage t i) (hij : i ≤ j) :
    Lasts stage t j := fun k hk ↦ h k (Nat.le_trans hij hk)

section

variable {kind : Kind} {id : String}

theorem Deleted.of_gone {faults : Faults} (h : Deleted faults kind id s t) (hs : s.Sound ids)
    (hgone : s.find? kind id = none) : t = s := by
  obtain ⟨rfl, -⟩ | ⟨l₁, r, l₂, hsplit, rfl, -⟩ := h
  · rfl
  · cases (hs.find?_of_split hsplit).symm.trans hgone

theorem Deleted.gone (h : Deleted .never kind id s t) (hs : s.Sound ids) :
    t.find? kind id = none := by
  cases hfind : s.find? kind id with
  | none => exact (h.of_gone hs hfind) ▸ hfind
  | some r =>
    obtain ⟨l₁, r, l₂, hsplit, rfl, -, rfl⟩ := h.of_stored hfind (Faults.not_feigns_never _)
    rw [(hs.remove hsplit).find?_eq_none_iff, hs.stores_remove_iff kind hsplit]
    exact fun h ↦ h.2 rfl

theorem calm_delete (hs : s.Sound ids) (hid : id ≠ "") (hfree : s.Free id kind) :
    ∃ t, calm ids (Gateway.delete kind id) s = (.ok (), t.memory []) ∧
      Deleted .never kind id s t := by
  have hdelete : Ends ids .never (Gateway.delete kind id) s _ _ := Ends.delete hs kind id
  obtain ⟨t, ⟨e, -, -, -, hpossible | hempty | hheld⟩ | ⟨_, hrun, ht⟩⟩ := hdelete.calm_cases
  · exact absurd hpossible Faults.not_possible_never
  · exact absurd hempty hid
  · exact absurd hfree hheld
  · exact ⟨t, hrun, ht⟩

theorem calm_delete_held (hid : id ≠ "") (hheld : ¬ s.Free id kind) :
    ∃ text, calm ids (Gateway.delete kind id) s =
      (.error (.callFailure .delete kind.displayName (some 409) text), s.memory []) := by
  obtain ⟨text, hanswers⟩ : ∃ text, Answers ids (.delete kind id) s (.ok (.failure 409 text)) s :=
    Service.answers_delete_held hheld
  refine ⟨text, ?_⟩
  rw [calm, Gateway.delete, Gateway.deleteRaw, Gateway.requireId, if_neg hid]
  change Program.run _ (.call (.delete kind id) _) _ = _
  rw [Program.run, transport_reply, hanswers [] [] rfl]
  rfl

end

theorem single_chainOfClassifier : (Lookup.chainOfClassifier hookId).Single :=
  (Gateway.single_list .portChain []).bind fun _ ↦ Option.some_ne_none _

theorem single_taggedWith : (HookTag.taggedWith key hookId).Single :=
  (Gateway.single_list .port _).bind fun _ ↦ Option.some_ne_none _

/-- What a removal of a hook goes through: its classifier is detached, then deleted, then its tag is
cleared. -/
structure HookStages (key : String) (ids : Nat → String) (hookId : String) (s u w t : Service) :
    Prop where
  valid : s.Valid ids
  tagged : s.Tagged key ids
  detached : ∃ b, Detached hookId s b u
  deleted : Deleted .never .flowClassifier hookId u w
  cleared : Cleared key hookId w t

theorem Service.Sound.id_ne (hs : s.Sound ids) (hblank : ∀ n, Text.blank (ids n) = false)
    (kind : Kind) (hport : kind ≠ .port) {r : kind.Resource} (hr : r ∈ s.get kind) :
    kind.key r ≠ "" := by
  obtain ⟨n, -, hid⟩ := hs.drawn kind hport r hr
  rw [hid]
  exact Text.ne_empty_of_blank (hblank n)

theorem Service.put_eq_self (kind : Kind) {l : List kind.Resource} (h : s.get kind = l) :
    s.put kind l = s := by
  subst h
  cases kind <;> rfl

theorem Atomic.setClassifiers_same (hs : s.Sound ids) {l₁ l₂ : List PortChain} {c : PortChain}
    (h : s.portChains = l₁ ++ c :: l₂) (hid : Kind.portChain.key c ≠ "") :
    Atomic ids .never (Engine.setClassifiers c c.flowClassifiers) s (.ok c) s := by
  have hset : Atomic ids .never (Engine.setClassifiers c c.flowClassifiers) s (.ok c) _ :=
    .setClassifiers hs h hid c.flowClassifiers
  rwa [Service.put_eq_self .portChain h] at hset

theorem exists_hookStages (hids : Function.Injective ids)
    (hblank : ∀ n, Text.blank (ids n) = false) (hv : s.Valid ids) (ht : s.Tagged key ids)
    (hid : hookId ≠ "") : ∃ u w t, HookStages key ids hookId s u w t := by
  have hdetach : Ends ids .never (detachFromChain hookId) s _ _ :=
    Ends.detachFromChain hv.sound hookId
  obtain ⟨u, ⟨e, -, -, hpossible | ⟨c, hc, -, hc'⟩⟩ | ⟨b, -, hu⟩⟩ := hdetach.calm_cases
  · exact absurd hpossible Faults.not_possible_never
  · exact absurd hc' (hv.sound.id_ne hblank .portChain (by decide) hc)
  have hsu := hu.sound hv.sound
  have htu : u.Tagged key ids := ht.steps hids hu.chainSteps.steps
  obtain ⟨w, -, hw⟩ := calm_delete hsu hid (hu.free hv.attached)
  have htw : w.Tagged key ids := htu.steps hids hw.classifierSteps
  have hclear : Ends ids .never (clearVanished key hookId) w _ _ :=
    Ends.clearVanished (hw.sound hsu) hookId
  obtain ⟨t, ⟨e, -, -, hpossible | hnamed⟩ | ⟨_, -, ht'⟩⟩ := hclear.calm_cases
  · exact absurd hpossible Faults.not_possible_never
  · exact absurd htw.named hnamed
  exact ⟨u, w, t, hv, ht, ⟨b, hu⟩, hw, ht'⟩

namespace HookStages

variable {i j : Nat} {p : Port} {Q : Except Error Unit → Nat → Prop}

theorem sound (h : HookStages key ids hookId s u w t) (i : Nat) :
    (stages s u w t i).Sound ids := by
  obtain ⟨b, hu⟩ := h.detached
  have hsu := hu.sound h.valid.sound
  have hsw := h.deleted.sound hsu
  rcases i with _ | _ | _ | i
  · exact h.valid.sound
  · exact hsu
  · exact hsw
  · cases h.cleared with
    | bare => exact hsw
    | tagged hsplit => exact hsw.amend .port hsplit rfl

theorem taggedAfter (h : HookStages key ids hookId s u w t) (hids : Function.Injective ids) :
    w.Tagged key ids := by
  obtain ⟨b, hu⟩ := h.detached
  exact (h.tagged.steps hids hu.chainSteps.steps).steps hids h.deleted.classifierSteps

theorem drawn_eq (h : HookStages key ids hookId s u w t) (i : Nat) :
    (stages s u w t i).drawn = s.drawn := by
  have hu : u.drawn = s.drawn := by
    obtain ⟨b, hu⟩ := h.detached
    cases hu <;> rfl
  have hw : w.drawn = u.drawn := by
    obtain ⟨rfl, -⟩ | ⟨_, _, _, -, -, -, rfl⟩ := h.deleted <;> rfl
  have ht : t.drawn = w.drawn := by
    cases h.cleared <;> rfl
  rcases i with _ | _ | _ | i
  · rfl
  · exact hu
  · exact hw.trans hu
  · exact ht.trans (hw.trans hu)

theorem ports_eq (h : HookStages key ids hookId s u w t) (hi : i ≤ 2) :
    (stages s u w t i).ports = s.ports := by
  obtain ⟨b, hu⟩ := h.detached
  rcases i with _ | _ | _ | i
  · rfl
  · exact hu.frame.1
  · exact h.deleted.ports.trans hu.frame.1
  · omega

theorem vacant (h : HookStages key ids hookId s u w t) (hids : Function.Injective ids) :
    ∀ p ∈ t.ports, tag? key p ≠ some hookId :=
  h.cleared.vacant (h.sound 2) (h.taggedAfter hids)

theorem mem_ports (h : HookStages key ids hookId s u w t) (hids : Function.Injective ids)
    (hp : p ∈ (stages s u w t i).ports) (htag : tag? key p = some hookId) :
    i ≤ 2 ∧ p ∈ s.ports := by
  by_cases hi : i ≤ 2
  · exact ⟨hi, h.ports_eq hi ▸ hp⟩
  · obtain ⟨k, rfl⟩ := Nat.exists_eq_add_of_lt (Nat.lt_of_not_le hi)
    rw [show 2 + k + 1 = k + 3 by omega] at hp
    exact absurd htag (h.vacant hids p hp)

theorem untagged_later (h : HookStages key ids hookId s u w t) (hids : Function.Injective ids)
    (hij : i ≤ j) (hnone : ∀ p ∈ (stages s u w t i).ports, tag? key p ≠ some hookId) :
    ∀ p ∈ (stages s u w t j).ports, tag? key p ≠ some hookId := by
  intro p hp htag
  obtain ⟨hj, hp⟩ := h.mem_ports hids hp htag
  exact hnone p ((h.ports_eq (Nat.le_trans hij hj)).symm ▸ hp) htag

theorem chains_eq (h : HookStages key ids hookId s u w t) (hi : 1 ≤ i) :
    (stages s u w t i).portChains = u.portChains := by
  have hw : w.portChains = u.portChains := by
    obtain ⟨rfl, -⟩ | ⟨_, _, _, -, -, -, rfl⟩ := h.deleted <;> rfl
  rcases i with _ | _ | _ | i
  · omega
  · rfl
  · exact hw
  · cases h.cleared with
    | bare => exact hw
    | tagged => exact hw

theorem free (h : HookStages key ids hookId s u w t) (hi : 1 ≤ i) :
    (stages s u w t i).Free hookId .flowClassifier := by
  obtain ⟨b, hu⟩ := h.detached
  exact fun c hc ↦ hu.free h.valid.attached c (h.chains_eq hi ▸ hc)

theorem gone (h : HookStages key ids hookId s u w t) (hi : 2 ≤ i) :
    (stages s u w t i).find? .flowClassifier hookId = none := by
  have hw : w.find? .flowClassifier hookId = none := h.deleted.gone (h.sound 1)
  rcases i with _ | _ | _ | i
  · omega
  · omega
  · exact hw
  · cases h.cleared with
    | bare => exact hw
    | tagged => exact hw

theorem settled (h : HookStages key ids hookId s u w t) (hi : 2 ≤ i)
    (hnone : ∀ p ∈ (stages s u w t i).ports, tag? key p ≠ some hookId) (hij : i ≤ j) :
    stages s u w t j = t := by
  rcases j with _ | _ | _ | j
  · omega
  · omega
  · obtain rfl : i = 2 := by omega
    cases h.cleared with
    | bare => rfl
    | tagged hsplit htag =>
      refine absurd htag (hnone _ ?_)
      change _ ∈ w.ports
      simp [hsplit]
  · rfl

theorem detached_of_free (h : HookStages key ids hookId s u w t)
    (hfree : (stages s u w t j).Free hookId .flowClassifier) :
    stages s u w t (max j 1) = stages s u w t j := by
  obtain ⟨b, hu⟩ := h.detached
  rcases j with _ | j
  · exact hu.of_free hfree
  · rw [Nat.max_eq_left (by omega)]

theorem deleted_of_gone (h : HookStages key ids hookId s u w t)
    (hgone : (stages s u w t j).find? .flowClassifier hookId = none) :
    stages s u w t (max j 2) = stages s u w t j := by
  obtain ⟨b, hu⟩ := h.detached
  have hafter (hnone : u.find? .flowClassifier hookId = none) : w = u :=
    h.deleted.of_gone (h.sound 1) hnone
  rcases j with _ | _ | j
  · have hnone : s.find? .flowClassifier hookId = none := hgone
    have hstored := h.valid.sound.find?_eq_none_iff.1 hnone
    have hu : u = s :=
      hu.of_free fun c hc hlisted ↦ hstored (h.valid.attached.stored c hc hookId hlisted)
    exact (hafter (hu ▸ hnone)).trans hu
  · exact hafter hgone
  · rw [Nat.max_eq_left (by omega)]

theorem calm_detach (h : HookStages key ids hookId s u w t)
    (hblank : ∀ n, Text.blank (ids n) = false) {c : PortChain} (hc : c ∈ s.portChains)
    (hlisted : hookId ∈ c.flowClassifiers) (j : Nat) :
    ∃ a, calm ids (detachClassifier c hookId) (stages s u w t j) =
      (.ok a, (stages s u w t (max j 1)).memory []) := by
  have hne : Kind.portChain.key c ≠ "" := h.valid.sound.id_ne hblank .portChain (by decide) hc
  obtain ⟨l₁, l₂, hsplit⟩ := List.append_of_mem hc
  obtain ⟨b, hu⟩ := h.detached
  let kept : PortChain := { c with flowClassifiers := c.flowClassifiers.filter (· ≠ hookId) }
  have hkept : u = s.put .portChain (l₁ ++ kept :: l₂) :=
    hu.unique (.listed hsplit hlisted) h.valid.sound h.valid.attached
  by_cases hj : j = 0
  · subst hj
    exact ⟨kept, hkept ▸ (Atomic.setClassifiers h.valid.sound hsplit hne _).run_eq⟩
  · -- the list that is written was read before, but stands in the chain already
    have hchains : (stages s u w t j).portChains = l₁ ++ kept :: l₂ := by
      rw [h.chains_eq (by omega), hkept]
      rfl
    have hset : Atomic ids .never (Engine.setClassifiers kept kept.flowClassifiers)
      (stages s u w t j) (.ok kept) (stages s u w t j) :=
      .setClassifiers_same (h.sound j) hchains hne
    rw [Nat.max_eq_left (by omega)]
    exact ⟨kept, hset.run_eq⟩

theorem calm_deleteHook (h : HookStages key ids hookId s u w t) (hid : hookId ≠ "") (hj : 1 ≤ j) :
    calm ids (Gateway.delete .flowClassifier hookId) (stages s u w t j) =
      (.ok (), (stages s u w t (max j 2)).memory []) := by
  obtain ⟨x, hrun, hx⟩ := calm_delete (h.sound j) hid (h.free hj)
  rw [hrun]
  by_cases h2 : 2 ≤ j
  · rw [Nat.max_eq_left h2, hx.of_gone (h.sound j) (h.gone h2)]
  · obtain rfl : j = 1 := by omega
    have hsame : w = x := h.deleted.unique hx (h.sound 1) (Faults.not_feigns_never _)
      (Faults.not_feigns_never _)
    rw [← hsame]
    rfl

theorem calm_clear (h : HookStages key ids hookId s u w t) (hids : Function.Injective ids)
    (hp : p ∈ s.ports) (htag : tag? key p = some hookId) (hj : 2 ≤ j) :
    ∃ a, calm ids (HookTag.set key p none) (stages s u w t j) =
      (.ok a, (stages s u w t (max j 3)).memory []) := by
  have hne : Kind.port.key p ≠ "" := h.tagged.named p hp (by simp [htag])
  have hports : w.ports = s.ports := h.ports_eq (i := 2) (Nat.le_refl 2)
  obtain ⟨l₁, l₂, hsplit⟩ := List.append_of_mem (hports ▸ hp)
  have hcleared : Cleared key hookId w _ := .tagged hsplit htag
  cases h.cleared.unique hcleared (h.sound 2) (h.taggedAfter hids)
  rcases j with _ | _ | _ | j
  · omega
  · omega
  · exact ⟨_, (Atomic.setTag (h.sound 2) hsplit hne none rfl).run_eq⟩
  · have hset : Atomic ids .never (HookTag.set key p none) (stages s u w _ (j + 3)) _ _ :=
      .setTag (h.sound (j + 3)) rfl hne none (retagged_retagged key p none none)
    rw [Nat.max_eq_left (by omega)]
    exact ⟨retagged key p none, hset.run_eq⟩

theorem finds_taggedPort (h : HookStages key ids hookId s u w t) (hids : Function.Injective ids)
    {classifier : FlowClassifier} (hid : classifier.id = some hookId) (i : Nat) :
    Finds ids (stages s u w t)
      (fun found j ↦ (∀ p ∈ found, p ∈ s.ports ∧ tag? key p = some hookId) ∧
        (found = none → ∀ p ∈ (stages s u w t j).ports, tag? key p ≠ some hookId))
      (HookTag.taggedPort key classifier) i := by
  have hscan (i : Nat) : Finds ids (stages s u w t)
      (fun found j ↦ (∀ p ∈ found, p ∈ s.ports ∧ tag? key p = some hookId) ∧
        (found = none → ∀ p ∈ (stages s u w t j).ports, tag? key p ≠ some hookId))
      (HookTag.taggedWith key hookId) i := by
    refine Abides.single single_taggedWith fun j _ ↦
      ⟨_, j, (Atomic.taggedWith _ hookId).run_eq, Nat.le_refl j, fun k hk ↦ ⟨_, rfl, ?_, ?_⟩⟩
    · intro p hp
      have htag : tag? key p = some hookId := by simpa using List.find?_some hp
      exact ⟨(h.mem_ports hids (List.mem_of_find?_eq_some hp) htag).2, htag⟩
    · intro hnone
      refine h.untagged_later hids hk fun p hp ↦ ?_
      simpa using List.find?_eq_none.1 hnone p hp
  rw [HookTag.taggedPort, hid]
  cases classifier.destinationAddress with
  | none => exact hscan i
  | some address =>
    refine Climbs.read (Gateway.single_list .port _) (fun j _ ↦ Atomic.list _ .port _) fun j _ ↦ ?_
    dsimp only
    split
    · rename_i p hp
      refine Climbs.value fun k _ ↦ ⟨some p, rfl, ?_, by simp⟩
      rintro _ ⟨⟩
      have htag : tag? key p = some hookId := by simpa using List.find?_some hp
      have hmem := List.mem_filter.1 (List.mem_of_find?_eq_some hp)
      exact ⟨(h.mem_ports hids hmem.1 htag).2, htag⟩
    · exact hscan j

theorem finds_detachFromChain (h : HookStages key ids hookId s u w t)
    (hblank : ∀ n, Text.blank (ids n) = false) (i : Nat) :
    Finds ids (stages s u w t) (fun _ j ↦ i ≤ j ∧ 1 ≤ j) (detachFromChain hookId) i := by
  refine Abides.step single_chainOfClassifier fun j hj ↦ ?_
  have hread : Atomic ids .never _ (stages s u w t j) _ _ := .chainOfClassifier _ hookId
  cases hfind : (stages s u w t j).chainOfClassifier hookId with
  | none =>
    have hfree := Inventory.chainOfClassifier_eq_none.1 hfind
    rw [hfind] at hread
    refine ⟨none, max j 1, ?_, Nat.le_max_left j 1, Climbs.value fun k hk ↦
      ⟨false, rfl, by omega, by omega⟩⟩
    rw [h.detached_of_free hfree]
    exact hread.run_eq
  | some c =>
    obtain ⟨hc, hlisted⟩ := Inventory.chainOfClassifier_eq_some hfind
    rw [hfind] at hread
    have hfirst : j = 0 := by
      by_contra hlate
      exact h.free (by omega) c hc hlisted
    subst hfirst
    refine ⟨some c, 0, hread.run_eq, Nat.le_refl 0, ?_⟩
    have hne : Kind.portChain.key c ≠ "" := h.valid.sound.id_ne hblank .portChain (by decide) hc
    refine Abides.step (Gateway.single_update hne _) fun j _ ↦ ?_
    obtain ⟨a, hrun⟩ := h.calm_detach hblank hc hlisted j
    exact ⟨a, max j 1, hrun, Nat.le_max_left j 1, Climbs.value fun k hk ↦
      ⟨true, rfl, by omega, by omega⟩⟩

theorem finds_clear (h : HookStages key ids hookId s u w t) (hids : Function.Injective ids)
    (hp : p ∈ s.ports) (htag : tag? key p = some hookId) (hi : 2 ≤ i) :
    Finds ids (stages s u w t) (fun _ j ↦ Lasts (stages s u w t) t j) (HookTag.set key p none)
      i := by
  have hne : Kind.port.key p ≠ "" := h.tagged.named p hp (by simp [htag])
  refine Abides.single (Gateway.single_update hne _) fun j hj ↦ ?_
  obtain ⟨b, hrun⟩ := h.calm_clear hids hp htag (Nat.le_trans hi hj)
  refine ⟨.ok b, max j 3, hrun, Nat.le_max_left j 3, fun k hk ↦ ⟨b, rfl, fun l hl ↦ ?_⟩⟩
  have h3 : 3 ≤ l := Nat.le_trans (Nat.le_max_right j 3) (Nat.le_trans hk hl)
  obtain ⟨n, rfl⟩ := Nat.exists_eq_add_of_le' h3
  rfl

theorem finds_clearVanished (h : HookStages key ids hookId s u w t)
    (hids : Function.Injective ids) (hi : 2 ≤ i) :
    Finds ids (stages s u w t) (fun _ j ↦ Lasts (stages s u w t) t j)
      (HookTag.clearVanished key hookId) i := by
  refine Climbs.read single_taggedWith (fun j _ ↦ Atomic.taggedWith _ hookId) fun j hj ↦ ?_
  have hj : 2 ≤ j := Nat.le_trans hi hj
  cases hfind : (stages s u w t j).ports.find? fun p ↦ tag? key p == some hookId with
  | none =>
    refine Climbs.value fun k hk ↦ ⟨none, rfl, fun l hl ↦
      h.settled hj (fun p hp ↦ ?_) (Nat.le_trans hk hl)⟩
    simpa using List.find?_eq_none.1 hfind p hp
  | some p =>
    have htag : tag? key p = some hookId := by simpa using List.find?_some hfind
    have hmem := (h.mem_ports hids (List.mem_of_find?_eq_some hfind) htag).2
    refine Climbs.bindFound (h.finds_clear hids hmem htag hj) fun b k hk ↦ ?_
    exact Climbs.value fun l hl ↦ ⟨some b, rfl, hk.later hl⟩

/-- Whatever others have done by then, the removal ends well, with the service as it stays. -/
theorem finds_removeHook (h : HookStages key ids hookId s u w t) (hids : Function.Injective ids)
    (hblank : ∀ n, Text.blank (ids n) = false) {hook : String}
    (hid : Guard.requireText (some hook) "Inspection Hook Id" = .ok hookId) (i : Nat) :
    Finds ids (stages s u w t) (fun _ j ↦ Lasts (stages s u w t) t j) (removeHook key hook) i := by
  have hne := Guard.ne_of_requireText hid
  rw [removeHook, hid]
  change Climbs ids _ _ (Gateway.get .flowClassifier hookId >>= _) i
  refine Abides.step (Gateway.single_get hne) fun j _ ↦ ?_
  have hread : Atomic ids .never _ (stages s u w t j) _ _ := .get_of_ne _ .flowClassifier hne
  cases hfind : (stages s u w t j).find? .flowClassifier hookId with
  | none =>
    rw [hfind] at hread
    refine ⟨none, max j 2, ?_, Nat.le_max_left j 2, ?_⟩
    -- the classifier is gone, so the service has come to the second stage at least
    · rw [h.deleted_of_gone hfind]
      exact hread.run_eq
    · refine Climbs.bindFound (h.finds_clearVanished hids (Nat.le_max_right j 2)) fun _ k hk ↦ ?_
      exact Climbs.value fun l hl ↦ ⟨(), rfl, hk.later hl⟩
  | some classifier =>
    rw [hfind] at hread
    refine ⟨some classifier, j, hread.run_eq, Nat.le_refl j, ?_⟩
    have hclassifier : classifier.id = some hookId := by
      obtain ⟨rfl, l₁, l₂, hsplit⟩ := Inventory.find?_eq_some hfind
      exact (h.sound j).idOf_eq .flowClassifier (by simp [hsplit])
    refine Climbs.bindFound (h.finds_taggedPort hids hclassifier j) fun tagged n htagged ↦ ?_
    refine Climbs.bindFound (h.finds_detachFromChain hblank n) fun b k hk ↦ ?_
    refine Abides.step ((Gateway.single_delete hne).mapError _) fun l hl ↦ ?_
    -- whoever has detached the classifier or deleted it, the call is answered with success
    have hrun := h.calm_deleteHook hne (Nat.le_trans hk.2 hl)
    refine ⟨(), max l 2, calm_mapError.2 hrun, Nat.le_max_left l 2, ?_⟩
    cases tagged with
    | none =>
      have hbare := h.untagged_later hids (j := max l 2) (by omega) (htagged.2 rfl)
      exact Climbs.value fun m hm ↦ ⟨(), rfl, fun n hn ↦
        h.settled (Nat.le_max_right l 2) hbare (Nat.le_trans hm hn)⟩
    | some p =>
      obtain ⟨hp, htag⟩ := htagged.1 p rfl
      have hclear := h.finds_clear hids hp htag (Nat.le_max_right l 2)
      refine Climbs.bindFound (hclear.mapFound _) fun _ k hk ↦ ?_
      exact Climbs.value fun l hl ↦ ⟨(), rfl, hk.later hl⟩

end HookStages

end TrafficSteering
