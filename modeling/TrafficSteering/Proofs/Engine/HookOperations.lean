import TrafficSteering.Proofs.Engine.Installation

namespace TrafficSteering

open Engine HookTag

variable {key : String} {ids : Nat → String} {faults : Faults} {s t u : Service} {hookId : String}

/-- What becomes of the ports when the tag of a hook is cleared. -/
inductive Cleared (key hookId : String) (s : Service) : Service → Prop
  | bare (h : ∀ p ∈ s.ports, tag? key p ≠ some hookId) : Cleared key hookId s s
  | tagged {l₁ l₂ : List Port} {p : Port} (h : s.ports = l₁ ++ p :: l₂)
      (htag : tag? key p = some hookId) :
      Cleared key hookId s (s.put .port (l₁ ++ retagged key p none :: l₂))

theorem Cleared.steps (h : Cleared key hookId s t) : Steps key ids s t := by
  cases h with
  | bare => exact .refl
  | tagged hsplit => exact .single (.untag hsplit)

theorem Cleared.vacant (h : Cleared key hookId s t) (hs : s.Sound ids) (ht : s.Tagged key ids) :
    ∀ p ∈ t.ports, tag? key p ≠ some hookId := by
  cases h with
  | bare hnone => exact hnone
  | @tagged l₁ l₂ q hsplit htag =>
    refine forall_mem_amend (ht.others hs hsplit htag) ?_
    rw [tag?_retagged]
    exact nofun

theorem Ends.clearTag (hs : s.Sound ids) {p : Port} (hp : p ∈ s.ports)
    (htag : tag? key p = some hookId) :
    Ends ids faults (HookTag.set key p none) s
      (fun _ t ↦ t = s ∧ (faults.Possible ∨ ¬ s.Named key))
      fun _ t ↦ Cleared key hookId s t := by
  obtain ⟨l₁, l₂, hsplit⟩ := List.append_of_mem hp
  refine (Ends.setTag hs hsplit none rfl).mono ?_ ?_
  · rintro e t ⟨rfl, -, hpossible | hid⟩
    · exact ⟨rfl, .inl hpossible⟩
    · exact ⟨rfl, .inr fun hnamed ↦ hnamed p hp (by simp [htag]) hid⟩
  · rintro a t ⟨-, rfl⟩
    exact .tagged hsplit htag

theorem Ends.clearVanished (hs : s.Sound ids) (hookId : String) :
    Ends ids faults (clearVanished key hookId) s
      (fun _ t ↦ t = s ∧ (faults.Possible ∨ ¬ s.Named key))
      fun _ t ↦ Cleared key hookId s t := by
  refine Ends.pass (.taggedWith s hookId) (fun hpossible _ _ ↦ ⟨rfl, .inl hpossible⟩) ?_
  cases hfind : s.ports.find? fun p ↦ tag? key p == some hookId with
  | none =>
    refine done (.bare fun p hp ↦ ?_)
    simpa using List.find?_eq_none.1 hfind p hp
  | some p =>
    have htag : tag? key p = some hookId := by simpa using List.find?_some hfind
    exact bind (clearTag hs (List.mem_of_find?_eq_some hfind) htag) (fun _ _ h ↦ h)
      fun _ t h ↦ done h

theorem Detached.chainSteps {b : Bool} (h : Detached hookId s b t) : ChainSteps ids s t := by
  cases h with
  | unlisted => exact .refl
  | listed hsplit => exact .single (.detach hookId hsplit)

theorem Deleted.ports (h : Deleted faults .flowClassifier hookId s t) : t.ports = s.ports := by
  obtain ⟨rfl, -⟩ | ⟨_, _, _, -, -, -, rfl⟩ := h <;> rfl

theorem Deleted.classifierSteps (h : Deleted faults .flowClassifier hookId s t) :
    Steps key ids s t := by
  obtain ⟨rfl, -⟩ | ⟨l₁, c, l₂, hsplit, rfl, hfree, rfl⟩ := h
  · exact .refl
  · exact .single (.dropClassifier hsplit hfree)

theorem Detached.free {b : Bool} (h : Detached hookId s b t) (ha : s.Attached) :
    t.Free hookId .flowClassifier := by
  cases h with
  | unlisted hfree => exact hfree
  | @listed l₁ l₂ c hsplit hlisted =>
    exact forall_mem_amend (ha.others hsplit hlisted) (by simp)

theorem Detached.frame {b : Bool} (h : Detached hookId s b t) :
    t.ports = s.ports ∧ t.flowClassifiers = s.flowClassifiers := by
  cases h <;> exact ⟨rfl, rfl⟩

theorem Detached.find?_eq {b : Bool} (h : Detached hookId s b t) (id : String) :
    t.find? .flowClassifier id = s.find? .flowClassifier id :=
  Inventory.find?_congr .flowClassifier h.frame.2 id

theorem Detached.sound {b : Bool} (h : Detached hookId s b t) (hs : s.Sound ids) :
    t.Sound ids := by
  cases h with
  | unlisted => exact hs
  | listed hsplit => exact hs.amend .portChain hsplit rfl

theorem Inventory.Attached.detached {b : Bool} (ha : s.Attached) (h : Detached hookId s b t) :
    t.Attached := by
  cases h with
  | unlisted => exact ha
  | listed hsplit => exact ha.shrink hsplit List.filter_sublist

theorem Deleted.sound (h : Deleted faults .flowClassifier hookId s t) (hs : s.Sound ids) :
    t.Sound ids := by
  obtain ⟨rfl, -⟩ | ⟨_, _, _, hsplit, -, -, rfl⟩ := h
  · exact hs
  · exact hs.remove hsplit

section

variable {hook : String}

/-- Whatever is asked about a hook, its tag is cleared where its classifier is gone. -/
theorem Ends.vanished {next : String → Option FlowClassifier → Program α} {a : α}
    (hs : s.Sound ids) (hid : Guard.requireText (some hook) "Inspection Hook Id" = .ok hookId)
    (hgone : s.find? .flowClassifier hookId = none)
    (hnext : next hookId none = HookTag.clearVanished key hookId >>= fun _ ↦ pure a) :
    Ends ids faults
      (liftM (Guard.requireText (some hook) "Inspection Hook Id") >>= fun hookId ↦
        Gateway.get .flowClassifier hookId >>= next hookId) s
      (fun _ t ↦ t = s ∧ (faults.Possible ∨ ¬ s.Named key))
      fun b t ↦ b = a ∧ Cleared key hookId s t := by
  rw [hid]
  refine pass (.lift _) (fun hpossible _ _ ↦ ⟨rfl, .inl hpossible⟩) ?_
  refine pass (.get_of_ne s .flowClassifier (Guard.ne_of_requireText hid))
    (fun hpossible _ _ ↦ ⟨rfl, .inl hpossible⟩) ?_
  rw [hgone, hnext]
  exact bind (clearVanished hs hookId) (fun _ _ h ↦ h) fun _ _ h ↦ done ⟨rfl, h⟩

theorem Ends.removeHook_gone (hs : s.Sound ids)
    (hid : Guard.requireText (some hook) "Inspection Hook Id" = .ok hookId)
    (hgone : s.find? .flowClassifier hookId = none) :
    Ends ids faults (removeHook key hook) s
      (fun _ t ↦ t = s ∧ (faults.Possible ∨ ¬ s.Named key))
      fun _ t ↦ Cleared key hookId s t :=
  (Ends.vanished (a := ()) hs hid hgone rfl).mono (fun _ _ h ↦ h) fun _ _ h ↦ h.2

theorem Ends.removeHook_stored (hs : s.Sound ids) (ha : s.Attached)
    (hid : Guard.requireText (some hook) "Inspection Hook Id" = .ok hookId)
    {classifier : FlowClassifier} (hstored : s.find? .flowClassifier hookId = some classifier) :
    Ends ids faults (removeHook key hook) s
      (fun _ t ↦ t = s ∧ (faults.Possible ∨ s.Stuck hookId) ∨
        ∃ b u, Detached hookId s b u ∧ (faults.Possible ∧ t = u ∨
          Deleted faults .flowClassifier hookId u t ∧ (faults.Possible ∨ ¬ s.Named key)))
      fun _ t ↦ ∃ b u w, Detached hookId s b u ∧ Deleted faults .flowClassifier hookId u w ∧
        Cleared key hookId w t := by
  have hne := Guard.ne_of_requireText hid
  have hclassifier : classifier.id = some hookId := by
    obtain ⟨rfl, l₁, l₂, hsplit⟩ := Inventory.find?_eq_some hstored
    exact hs.idOf_eq .flowClassifier (by simp [hsplit])
  rw [removeHook, hid]
  refine pass (.lift _) (fun hpossible _ _ ↦ .inl ⟨rfl, .inl hpossible⟩) ?_
  refine pass (.get_of_ne s .flowClassifier hne) (fun hpossible _ _ ↦ .inl ⟨rfl, .inl hpossible⟩) ?_
  rw [hstored]
  refine pass (.taggedPort s key classifier)
    (fun hpossible _ _ ↦ .inl ⟨rfl, .inl hpossible⟩) ?_
  refine bind (detachFromChain hs hookId) (fun _ _ h ↦ .inl h) fun b u hu ↦ ?_
  have hsu := hu.sound hs
  refine bindMapped (delete hsu .flowClassifier hookId) ?_ fun _ w hw ↦ ?_
  · rintro e t ⟨rfl, -, hpossible | hblank | hheld⟩
    · exact .inr ⟨b, t, hu, .inl ⟨hpossible, rfl⟩⟩
    · exact absurd hblank hne
    · exact absurd (hu.free ha) hheld
  have hports : w.ports = s.ports := hw.ports.trans hu.frame.1
  cases hfound : s.taggedPort key classifier with
  | none =>
    have hnone := Inventory.taggedPort_eq_none hclassifier hfound
    exact done ⟨b, u, w, hu, hw, .bare fun p hp ↦ hnone p (hports ▸ hp)⟩
  | some p =>
    obtain ⟨hp, htag⟩ := Inventory.taggedPort_eq_some hclassifier hfound
    refine bindMapped (clearTag (hw.sound hsu) (hports ▸ hp) htag) ?_ fun _ t ht ↦
      done ⟨b, u, w, hu, hw, ht⟩
    rintro e t ⟨rfl, hpossible⟩
    refine .inr ⟨b, u, hu, .inr ⟨hw, hpossible.imp_right fun hnamed h ↦ hnamed ?_⟩⟩
    exact fun q hq ↦ h q (hports ▸ hq)

theorem removeHook_inSteps (hv : s.Valid ids) (hook : String) :
    InSteps (Step key ids) ids (removeHook key hook) s := by
  cases hid : Guard.requireText (some hook) "Inspection Hook Id" with
  | error e =>
    rw [removeHook, hid]
    exact .atomic (.stop (.lift _))
  | ok hookId =>
    cases hfind : s.find? .flowClassifier hookId with
    | none =>
      exact .last (Ends.removeHook_gone hv.sound hid hfind) (fun _ _ h ↦ h.1 ▸ .refl)
        fun _ _ h ↦ h.steps
    | some classifier =>
      refine .last (Ends.removeHook_stored hv.sound hv.attached hid hfind) ?_ ?_
      · rintro e t (⟨rfl, -⟩ | ⟨b, u, hu, ⟨-, rfl⟩ | ⟨ht, -⟩⟩)
        · exact .refl
        · exact hu.chainSteps.steps
        · exact hu.chainSteps.steps.trans ht.classifierSteps
      · rintro _ t ⟨b, u, w, hu, hw, ht⟩
        exact (hu.chainSteps.steps.trans hw.classifierSteps).trans ht.steps

theorem Ends.getHook (hs : s.Sound ids) (hook : String) :
    Ends ids faults (getHook key hook) s (fun _ t ↦ t = s) fun _ t ↦
      t = s ∨ ∃ hookId, ¬ s.Stores .flowClassifier hookId ∧ Cleared key hookId s t := by
  refine read (.lift _) (fun _ ↦ rfl) fun hookId hid ↦ ?_
  refine pass (.get_of_ne s .flowClassifier (Guard.ne_of_requireText hid)) (fun _ _ _ ↦ rfl) ?_
  cases hfind : s.find? .flowClassifier hookId with
  | none =>
    exact bind (clearVanished hs hookId) (fun _ _ h ↦ h.1) fun _ _ h ↦
      done (.inr ⟨hookId, hs.find?_eq_none_iff.1 hfind, h⟩)
  | some classifier =>
    refine pass (.taggedPort s key classifier) (fun _ _ _ ↦ rfl) ?_
    cases s.taggedPort key classifier
    all_goals
      refine pass .done (fun _ _ _ ↦ rfl) (pass (.chainOfClassifier s hookId) (fun _ _ _ ↦ rfl) ?_)
      cases s.chainOfClassifier hookId with
      | none => exact done (.inl rfl)
      | some c =>
        obtain ⟨r, hr⟩ := Atomic.chainTree ids s c
        exact read (hr faults) (fun _ ↦ rfl) fun _ _ ↦ done (.inl rfl)

theorem getHook_inSteps (hv : s.Valid ids) (hook : String) :
    InSteps (Step key ids) ids (getHook key hook) s := by
  refine .last (Ends.getHook hv.sound hook) (fun _ _ h ↦ h ▸ .refl) ?_
  rintro _ t (rfl | ⟨hookId, -, h⟩)
  · exact .refl
  · exact h.steps

/-- A change of chain that nothing stands against. -/
structure Movable (key : String) (s : Service) (hook : InspectionHook) (hookId chainId : String)
    (chain : PortChain) : Prop where
  named : Guard.requireText hook.hookId "Inspection Hook Id" = .ok hookId
  chained : Guard.requireText hook.chain.elementId "Inspection port" = .ok chainId
  located : ∃ classifier inspectedId, s.find? .flowClassifier hookId = some classifier ∧
    Guard.requireText hook.inspectedPort.elementId "Inspected port" = .ok inspectedId ∧
    (s.taggedPort key classifier).bind (·.id) = some inspectedId
  found : s.find? .portChain chainId = some chain

/-- What a change of chain leaves. -/
inductive Moved (hookId : String) (s : Service) (chain : PortChain) : Service → Prop
  | stays (hlisted : hookId ∈ chain.flowClassifiers) : Moved hookId s chain s
  | moved {b : Bool} {u : Service} {l₁ l₂ : List PortChain}
      (hlisted : hookId ∉ chain.flowClassifiers) (hu : Detached hookId s b u)
      (hsplit : u.portChains = l₁ ++ chain :: l₂) :
      Moved hookId s chain (u.put .portChain
        (l₁ ++ { chain with flowClassifiers := chain.flowClassifiers ++ [hookId] } :: l₂))

end

section

variable {hook : InspectionHook} {chainId : String} {chain : PortChain}

theorem Ends.updateHook_movable (hs : s.Sound ids) (ha : s.Attached)
    (h : Movable key s hook hookId chainId chain) :
    Ends ids faults (updateHook key hook) s
      (fun _ t ↦ t = s ∧ (faults.Possible ∨ s.Stuck hookId) ∨
        faults.Possible ∧ Detached hookId s true t ∧ hookId ∉ chain.flowClassifiers)
      fun _ t ↦ Moved hookId s chain t := by
  obtain ⟨classifier, inspectedId, hclassifier, hinspected, hport⟩ := h.located
  -- up to the first change, a failure leaves everything as it was
  have hearly : faults.Possible → ∀ e : Error, e.isPartial = false →
      s = s ∧ (faults.Possible ∨ s.Stuck hookId) ∨
        faults.Possible ∧ Detached hookId s true s ∧ hookId ∉ chain.flowClassifiers :=
    fun hpossible _ _ ↦ .inl ⟨rfl, .inl hpossible⟩
  have hchainId := Guard.ne_of_requireText h.chained
  obtain ⟨hkey, m₁, m₂, hchains⟩ := Inventory.find?_eq_some h.found
  have hrequired : Atomic ids faults (requireChain chainId) s (.ok chain) s := by
    rw [← hkey] at hchainId ⊢
    exact .requireChain_stored hs hchains hchainId
  rw [updateHook, h.named, hinspected, h.chained]
  refine pass (.lift _) hearly (pass (.lift _) hearly (pass (.lift _) hearly ?_))
  refine pass (.get_of_ne s .flowClassifier (Guard.ne_of_requireText h.named)) hearly ?_
  rw [hclassifier]
  refine pass (.lift _) hearly (pass (.taggedPort s key classifier) hearly ?_)
  simp only [hport, ne_eq, not_true_eq_false, if_false]
  refine pass hrequired hearly (pass (.chainOfClassifier s hookId) hearly ?_)
  cases hfind : s.chainOfClassifier hookId with
  | none =>
    have hfree := Inventory.chainOfClassifier_eq_none.1 hfind
    have hnot : hookId ∉ chain.flowClassifiers := hfree chain (by
      rw [show s.portChains = m₁ ++ chain :: m₂ from hchains]; simp)
    simp only [attachClassifier_eq hnot]
    exact pass (.setClassifiers hs hchains (hkey ▸ hchainId) _) hearly
      (done (.moved hnot (.unlisted hfree) hchains))
  | some old =>
    obtain ⟨hold, hlisted⟩ := Inventory.chainOfClassifier_eq_some hfind
    by_cases hsame : old.id = some chainId
    · have hfound := hs.find?_of_mem .portChain hold
      rw [show Kind.portChain.key old = chainId from Kind.key_eq hsame, h.found] at hfound
      cases hfound
      simp only [hsame, if_true]
      exact done (.stays hlisted)
    · obtain ⟨l₁, l₂, hsplit⟩ := List.append_of_mem hold
      -- the hook is taken off the old chain first, and a failure from here on leaves it on none
      have hothers := ha.others hsplit hlisted
      have hne : chain ≠ old := by
        rintro rfl
        exact hsame (hkey ▸ hs.idOf_eq .portChain (by simp [hchains]))
      have hchain : chain ∈ l₁ ++ old :: l₂ := by
        rw [← hsplit, show s.portChains = m₁ ++ chain :: m₂ from hchains]
        simp
      have hmem : chain ∈ l₁ ++ l₂ := by grind
      have hnot := hothers chain hmem
      simp only [hsame, if_false, attachClassifier_eq hnot]
      refine bind (setClassifiers hs hsplit _)
        (fun _ _ h ↦ .inl ⟨h.1, h.2.2.imp_right fun hempty ↦ ⟨old, hold, hlisted, hempty⟩⟩) ?_
      rintro _ u ⟨-, rfl⟩
      have hu : Detached hookId s true _ := .listed hsplit hlisted
      obtain ⟨k₁, k₂, hu₂⟩ := List.append_of_mem (a := chain)
        (l := l₁ ++ { old with flowClassifiers := old.flowClassifiers.filter (· ≠ hookId) } :: l₂)
        (by grind)
      exact passAfter (.setClassifiers (hu.sound hs) hu₂ (hkey ▸ hchainId) _)
        (fun hpossible _ _ ↦ .inr ⟨hpossible, hu, hnot⟩) (done (.moved hnot hu hu₂))

/-- Where something stands against a change of chain, nothing is changed. -/
theorem Ends.updateHook_unmovable
    (h : ¬ ∃ hookId chainId chain, Movable key s hook hookId chainId chain) :
    Ends ids faults (updateHook key hook) s (fun _ t ↦ t = s) fun _ _ ↦ False := by
  refine read (.lift _) (fun _ ↦ rfl) fun hookId hid ↦ ?_
  refine read (.lift _) (fun _ ↦ rfl) fun inspectedId hinspected ↦ ?_
  refine read (.lift _) (fun _ ↦ rfl) fun chainId hchained ↦ ?_
  refine pass (.get_of_ne s .flowClassifier (Guard.ne_of_requireText hid)) (fun _ _ _ ↦ rfl) ?_
  refine read (.lift _) (fun _ ↦ rfl) fun classifier hfound ↦ ?_
  have hclassifier := Guard.requireFound_eq_ok.1 hfound
  refine pass (.taggedPort s key classifier) (fun _ _ _ ↦ rfl) ?_
  by_cases hport : (s.taggedPort key classifier).bind (·.id) = some inspectedId
  · obtain ⟨r, hr, hrequired⟩ := Atomic.requireChain ids s chainId
    simp only [hport, ne_eq, not_true_eq_false, if_false]
    refine read (hr _) (fun _ ↦ rfl) fun chain hchain ↦ ?_
    have hmovable : Movable key s hook hookId chainId chain :=
      { named := hid
        chained := hchained
        located := ⟨classifier, inspectedId, hclassifier, hinspected, hport⟩
        found := ((hrequired chain).1 hchain).2 }
    exact absurd ⟨hookId, chainId, chain, hmovable⟩ h
  · simp only [ne_eq, hport, not_false_eq_true, if_true]
    exact fail rfl

theorem Moved.chainSteps (h : Moved hookId s chain t) (ha : s.Attached)
    (hstored : s.Stores .flowClassifier hookId) : ChainSteps ids s t := by
  cases h with
  | stays => exact .refl
  | moved hnot hu hsplit =>
    refine hu.chainSteps.tail (.attach hsplit ?_ (hu.free ha))
    cases hu <;> exact hstored

theorem updateHook_inSteps (hv : s.Valid ids) (hook : InspectionHook) :
    InSteps (ChainStep ids) ids (updateHook key hook) s := by
  by_cases h : ∃ hookId chainId chain, Movable key s hook hookId chainId chain
  · obtain ⟨hookId, chainId, chain, h⟩ := h
    obtain ⟨classifier, -, hclassifier, -, -⟩ := h.located
    have hstored : s.Stores .flowClassifier hookId := hv.sound.stores_of_find? hclassifier
    refine .last (Ends.updateHook_movable hv.sound hv.attached h) ?_
      fun _ _ h ↦ h.chainSteps hv.attached hstored
    rintro e t (⟨rfl, -⟩ | ⟨-, hu, -⟩)
    · exact .refl
    · exact hu.chainSteps
  · exact .last (Ends.updateHook_unmovable h) (fun _ _ h ↦ h ▸ .refl) fun _ _ h ↦ h.elim

end

end TrafficSteering
