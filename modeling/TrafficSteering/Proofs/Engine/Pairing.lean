import TrafficSteering.Proofs.Engine.Histories

namespace TrafficSteering

open Engine HookTag

variable {key : String} {ids : Nat → String} {faults : Faults} {s t : Service} {hookId : String}

namespace Service

def Carries (key : String) (s : Service) (hookId : String) : Prop :=
  ∃ p ∈ s.ports, tag? key p = some hookId

def Paired (key : String) (s : Service) : Prop :=
  ∀ hookId, s.Stores .flowClassifier hookId ↔ s.Carries key hookId

theorem carries_split (key : String) {l₁ l₂ : List Port} {p : Port} (h : s.ports = l₁ ++ p :: l₂) :
    s.Carries key hookId ↔
      tag? key p = some hookId ∨ ∃ q ∈ l₁ ++ l₂, tag? key q = some hookId := by
  have hmem (q : Port) : q ∈ l₁ ++ p :: l₂ ↔ q = p ∨ q ∈ l₁ ++ l₂ := by simp [or_left_comm]
  simp only [Carries, h, hmem, or_and_right, exists_or, exists_eq_left]

theorem stores_add_self (s : Service) (r : FlowClassifier) :
    (s.add ids .flowClassifier r).Stores .flowClassifier hookId ↔
      s.Stores .flowClassifier hookId ∨ hookId = ids (s.drawn + 1) := by
  have hissue : Kind.flowClassifier.idOf (s.issue ids .flowClassifier r) = ids (s.drawn + 1) := rfl
  simp only [Inventory.Stores, get_add, List.mem_append, List.mem_singleton, or_and_right,
    exists_or, exists_eq_left, hissue, Option.some.injEq, eq_comm]

namespace Paired

theorem congr (h : s.Paired key) (hports : t.ports = s.ports)
    (hhooks : t.flowClassifiers = s.flowClassifiers) : t.Paired key := by
  intro hookId
  rw [Inventory.Stores, Carries, Inventory.get, hports, hhooks]
  exact h hookId

theorem chainSteps (h : s.Paired key) (hsteps : ChainSteps ids s t) : t.Paired key :=
  h.congr hsteps.frame.1 hsteps.frame.2

theorem looked (h : s.Paired key) {l₁ l₂ : List Port} {port : Port}
    (hsplit : s.ports = l₁ ++ port :: l₂) (hlooked : Looked key s l₁ l₂ port none t) :
    t = s ∧ tag? key port = none := by
  cases hlooked with
  | bare htag => exact ⟨rfl, htag⟩
  | healed htag hid hgone =>
    exact absurd ((h _).2 ⟨port, by simp [hsplit], htag⟩) hgone

theorem withTag (h : s.Paired key) {l₁ l₂ : List Port} {port : Port}
    (hsplit : s.ports = l₁ ++ port :: l₂) (htag : tag? key port = none) (r : FlowClassifier) :
    (withTag key ids s l₁ l₂ port r).Paired key := by
  intro hookId
  have hstores : (TrafficSteering.withTag key ids s l₁ l₂ port r).Stores .flowClassifier
      hookId ↔ _ := stores_add_self s r
  rw [hstores, h hookId, carries_split key hsplit, carries_split key rfl, tag?_retagged, htag]
  simp [or_comm, eq_comm]

theorem cleared (h : s.Paired key) (hs : s.Sound ids) (ht : s.Tagged key ids) {l₁ l₂ : List Port}
    {p : Port} (hsplit : s.ports = l₁ ++ p :: l₂) (htag : tag? key p = some hookId)
    (hports : t.ports = l₁ ++ retagged key p none :: l₂)
    (hhooks : ∀ id, t.Stores .flowClassifier id ↔ s.Stores .flowClassifier id ∧ id ≠ hookId) :
    t.Paired key := by
  intro id
  rw [hhooks, h id, carries_split key hsplit, carries_split key hports, tag?_retagged, htag]
  have hother : ∀ q ∈ l₁ ++ l₂, tag? key q ≠ some hookId := by
    intro q hq hqtag
    have hsplit : s.get .port = l₁ ++ p :: l₂ := hsplit
    have hmem : q ∈ s.ports ∧ p ∈ s.ports := by
      rw [show s.ports = l₁ ++ p :: l₂ from hsplit]
      grind
    cases ht.eq_of_tag hmem.1 hmem.2 hqtag htag
    obtain ⟨hleft, hright⟩ := hs.keys_ne hsplit
    exact (List.mem_append.1 hq).elim (fun hq ↦ hleft _ hq rfl) fun hq ↦ hright _ hq rfl
  grind

end Paired

end Service

/-- The program keeps classifiers and tags in pairs where no call is made to fail. -/
def KeepsPairs (key : String) (ids : Nat → String) {α : Type} (p : Program α) (s : Service) :
    Prop :=
  Ends ids .never p s (fun _ t ↦ t.Paired key) fun _ t ↦ t.Paired key

namespace KeepsPairs

variable {α : Type} {p : Program α}

theorem of_inSteps (hp : InSteps (ChainStep ids) ids p s) (h : s.Paired key) :
    KeepsPairs key ids p s :=
  hp.undisturbed.mono (fun _ _ hsteps ↦ h.chainSteps hsteps) fun _ _ hsteps ↦ h.chainSteps hsteps

theorem installHook (hv : s.Valid ids) (hids : Function.Injective ids) (h : s.Paired key)
    (inspected chain : Element) : KeepsPairs key ids (installHook key inspected chain) s := by
  by_cases hx : ∃ x : Site, x.Ready key ids s inspected chain
  · obtain ⟨x, hx⟩ := hx
    refine (Ends.installHook_ready hv hids hx).mono
      (fun _ _ h ↦ absurd h.1 Faults.not_possible_never) ?_
    rintro _ t ⟨u, classifier, hlooked, -, rfl⟩
    obtain ⟨rfl, htag⟩ := h.looked hx.ports hlooked
    have hdrawn : Service.Paired key { u with drawn := u.drawn + 1 } := h.congr rfl rfl
    exact (hdrawn.withTag hx.ports htag classifier).congr rfl rfl
  · refine (Ends.installHook_unready hv.sound hx).mono ?_ fun _ _ h ↦ h.elim
    rintro _ t ⟨-, rfl | ⟨l₁, port, l₂, hports, -, hlooked⟩⟩
    · exact h
    · exact (h.looked hports hlooked).1 ▸ h

theorem of_cleared (h : s.Paired key) (hgone : ¬ s.Stores .flowClassifier hookId)
    (hcleared : Cleared key hookId s t) : t.Paired key := by
  cases hcleared with
  | bare => exact h
  | @tagged l₁ l₂ p hsplit htag =>
    exact absurd ((h hookId).2 ⟨p, by simp [hsplit], htag⟩) hgone

theorem getHook (hv : s.Valid ids) (h : s.Paired key) (hook : String) :
    KeepsPairs key ids (getHook key hook) s := by
  refine (Ends.getHook hv.sound hook).mono (fun _ _ he ↦ he ▸ h) ?_
  rintro _ t (rfl | ⟨hookId, hgone, hcleared⟩)
  · exact h
  · exact of_cleared h hgone hcleared

theorem removeHook (hv : s.Valid ids) (ht : s.Tagged key ids) (h : s.Paired key) (hook : String) :
    KeepsPairs key ids (removeHook key hook) s := by
  cases hid : Guard.requireText (some hook) "Inspection Hook Id" with
  | error e =>
    rw [Engine.removeHook, hid]
    exact Ends.halt (.lift _) fun _ ↦ h
  | ok hookId =>
    cases hfind : s.find? .flowClassifier hookId with
    | none =>
      refine (Ends.removeHook_gone hv.sound hid hfind).mono (fun _ _ he ↦ he.1 ▸ h) ?_
      exact fun _ _ hcleared ↦ of_cleared h (hv.sound.find?_eq_none_iff.1 hfind) hcleared
    | some classifier =>
      refine (Ends.removeHook_stored hv.sound hv.attached hid hfind).mono ?_ ?_
      · rintro e t (⟨rfl, -⟩ | ⟨b, u, hu, ⟨-, rfl⟩ | ⟨-, hpossible | hnamed⟩⟩)
        · exact h
        · exact h.congr hu.frame.1 hu.frame.2
        · exact absurd hpossible Faults.not_possible_never
        · exact absurd ht.named hnamed
      · rintro _ t ⟨b, u, w, hu, hw, hcleared⟩
        have hfound : u.find? .flowClassifier hookId = some classifier :=
          (hu.find?_eq hookId).trans hfind
        obtain ⟨l₁, c, l₂, hsplit, hkey, -, rfl⟩ :=
          hw.of_stored hfound (Faults.not_feigns_never _)
        have hstores (id : String) : (u.put .flowClassifier (l₁ ++ l₂)).Stores .flowClassifier id ↔
            s.Stores .flowClassifier id ∧ id ≠ hookId := by
          rw [(hu.sound hv.sound).stores_remove_iff .flowClassifier hsplit, hkey,
            Inventory.stores_congr .flowClassifier hu.frame.2]
        have hports : (u.put .flowClassifier (l₁ ++ l₂)).ports = s.ports := hu.frame.1
        have hstored : s.Stores .flowClassifier hookId := hv.sound.stores_of_find? hfind
        cases hcleared with
        | bare hnone =>
          obtain ⟨p, hp, htag⟩ := (h hookId).1 hstored
          exact absurd htag (hnone p (hports ▸ hp))
        | tagged hsplit htag =>
          exact h.cleared hv.sound ht (hports ▸ hsplit) htag rfl hstores

theorem request (hv : s.Valid ids) (hids : Function.Injective ids) (ht : s.Tagged key ids)
    (h : s.Paired key) (r : Request) : KeepsPairs key ids (r.program key) s := by
  cases r with
  | getInspectionPort port => exact of_inSteps (getInspectionPort_inSteps port) h
  | registerInspectionPort port => exact of_inSteps (registerInspectionPort_inSteps hv hids port) h
  | removeInspectionPort port => exact of_inSteps (removeInspectionPort_inSteps hv hids port) h
  | installHook inspected chain => exact installHook hv hids h inspected chain
  | updateHook hook => exact of_inSteps (updateHook_inSteps hv hook) h
  | removeHook hook => exact removeHook hv ht h hook
  | getHook hook => exact getHook hv h hook
  | registerChain groups => exact of_inSteps (registerChain_inSteps hv hids groups) h
  | updateChain chain groups => exact of_inSteps (updateChain_inSteps hv hids chain groups) h
  | deleteChain chain => exact of_inSteps (deleteChain_inSteps hv chain) h
  | getChain chain => exact of_inSteps (getChain_inSteps chain) h

end KeepsPairs

theorem history_paired (hv : s.Valid ids) (hids : Function.Injective ids) (ht : s.Tagged key ids)
    (h : s.Paired key) {events : List Event} (hquiet : ∀ f, .failAfter f ∉ events) :
    ∃ t : Service, history key ids (s.memory []) events = t.memory [] ∧ t.Paired key := by
  induction events generalizing s with
  | nil => exact ⟨s, rfl, h⟩
  | cons e events ih =>
    cases e with
    | failAfter f => exact absurd List.mem_cons_self (hquiet f)
    | request r =>
      obtain ⟨rest, u, hu, hsteps⟩ := (r.inSteps key hv hids).run []
      obtain ⟨u', hu', hpaired⟩ : ∃ u' : Service, (r.run key ids (s.memory [])).2 = u'.memory [] ∧
          u'.Paired key := by
        obtain ⟨u', ⟨e, hrun, hpaired⟩ | ⟨a, hrun, hpaired⟩⟩ :=
          (KeepsPairs.request hv hids ht h r).calm_cases
        · exact ⟨u', congrArg Prod.snd hrun, hpaired⟩
        · exact ⟨u', congrArg Prod.snd hrun, hpaired⟩
      cases Service.memory_injective (hu.symm.trans hu')
      obtain ⟨t, hrun, ht⟩ := ih (hv.steps hids hsteps) (ht.steps hids hsteps) hpaired
        fun f hf ↦ hquiet f (List.mem_cons_of_mem _ hf)
      refine ⟨t, ?_, ht⟩
      rw [history, List.foldl_cons, Event.apply, hu']
      exact hrun

theorem Service.Bare.paired (h : s.Bare ids) (huntagged : ∀ p ∈ s.ports, tag? key p = none) :
    s.Paired key := by
  intro hookId
  have hnone : s.get .flowClassifier = [] := h.flowClassifiers
  refine ⟨fun ⟨c, hc, _⟩ ↦ ?_, fun ⟨p, hp, htag⟩ ↦ ?_⟩
  · exact absurd (hnone ▸ hc) List.not_mem_nil
  · cases (huntagged p hp).symm.trans htag

theorem Service.Paired.unique (h : s.Paired key) (hs : s.Sound ids) (ht : s.Tagged key ids)
    {c : FlowClassifier} (hc : c ∈ s.flowClassifiers) :
    ∃ hookId, c.id = some hookId ∧ ∃! p, p ∈ s.ports ∧ tag? key p = some hookId := by
  have hid := hs.idOf_eq .flowClassifier hc
  obtain ⟨p, hp, htag⟩ := (h (Kind.flowClassifier.key c)).1 ⟨c, hc, hid⟩
  exact ⟨_, hid, p, ⟨hp, htag⟩, fun q hq ↦ ht.eq_of_tag hq.1 hp hq.2 htag⟩

/-- In every memory that comes about from untagged ports, chains list stored classifiers, none of
them twice, and no two ports carry the same tag; where no call was made to fail, each classifier is
the tag of exactly one port, and each tag that of a classifier. -/
theorem history_hooked (hids : Function.Injective ids) (project : String) (ports : List Port)
    (huntagged : ∀ p ∈ ports, tag? key p = none) (events : List Event) :
    ∃ v : Inventory, (history key ids (seeded ids project ports) events).collections =
        v.collections ∧
      v.Attached ∧ (v.ports.filterMap (tag? key)).Nodup ∧
      ((∀ f, .failAfter f ∉ events) →
        (∀ c ∈ v.flowClassifiers, ∃ hookId, c.id = some hookId ∧
          ∃! p, p ∈ v.ports ∧ tag? key p = some hookId) ∧
        ∀ p ∈ v.ports, ∀ hookId ∈ tag? key p, v.Stores .flowClassifier hookId) := by
  obtain ⟨s, hs, hbare, hnone⟩ := seeded_untagged ids project huntagged
  have htagged : s.Tagged key ids := .of_untagged hnone
  obtain ⟨failures, t, ht, hsteps⟩ := history_steps key hbare.valid hids [] events
  have hvt := hbare.valid.steps hids hsteps
  have htt := htagged.steps hids hsteps
  refine ⟨t.toInventory, by rw [hs, ht]; rfl, hvt.attached, htt.once, fun hquiet ↦ ?_⟩
  obtain ⟨u, hu, hpaired⟩ := history_paired hbare.valid hids htagged (hbare.paired hnone) hquiet
  cases Service.memory_injective (ht.symm.trans hu)
  refine ⟨fun c hc ↦ hpaired.unique hvt.sound htt hc, fun p hp hookId htag ↦ ?_⟩
  exact (hpaired hookId).2 ⟨p, hp, htag⟩

theorem Sample.ports_untagged : ∀ p ∈ Sample.ports, tag? defaultKey p = none := by decide

def Sample.quietEvents : List Event :=
  [.request (.registerInspectionPort span),
    .request (.registerChain [{ elementId := some (numberedId 2) }]),
    .request (.installHook inspected chain)]

theorem sample_hooked :
    Function.Injective numberedId ∧ (∀ p ∈ Sample.ports, tag? defaultKey p = none) ∧
      (∀ f, .failAfter f ∉ Sample.quietEvents) ∧
      ∃ v : Inventory, (history defaultKey numberedId (seeded numberedId "project" Sample.ports)
          Sample.quietEvents).collections = v.collections ∧
        v.Attached ∧ (v.ports.filterMap (tag? defaultKey)).Nodup ∧
        (∀ c ∈ v.flowClassifiers, ∃ hookId, c.id = some hookId ∧
          ∃! p, p ∈ v.ports ∧ tag? defaultKey p = some hookId) ∧
        ∀ p ∈ v.ports, ∀ hookId ∈ tag? defaultKey p, v.Stores .flowClassifier hookId := by
  have hquiet : ∀ f, Event.failAfter f ∉ Sample.quietEvents := by simp [Sample.quietEvents]
  obtain ⟨v, hv, hattached, honce, hpairs⟩ := history_hooked numberedId_injective "project"
    Sample.ports Sample.ports_untagged Sample.quietEvents
  exact ⟨numberedId_injective, Sample.ports_untagged, hquiet, v, hv, hattached, honce,
    hpairs hquiet⟩

end TrafficSteering
