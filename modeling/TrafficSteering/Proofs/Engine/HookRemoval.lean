import TrafficSteering.Proofs.Engine.InstallRetries

namespace TrafficSteering

open Engine HookTag

variable {key : String} {ids : Nat → String} {s t u w z : Service} {l₁ l₂ : List Port} {p q : Port}
  {hookId : String} {inspected chain : Element}

theorem calm_removeHook (hv : s.Valid ids) (hids : Function.Injective ids) (ht : s.Tagged key ids)
    (hid : Text.blank hookId = false) (hstored : s.Stores .flowClassifier hookId)
    (hstuck : ¬ s.Stuck hookId) {b : Bool} (hu : Detached hookId s b u)
    (hw : Deleted .never .flowClassifier hookId u w) (hz : Cleared key hookId w z) :
    calm ids (removeHook key hookId) s = (.ok (), z.memory []) := by
  have hs := hv.sound
  have hnamed : Guard.requireText (some hookId) "Inspection Hook Id" = .ok hookId :=
    Guard.requireText_eq_ok_iff.2 ⟨rfl, hid⟩
  obtain ⟨classifier, hfind⟩ : ∃ c, s.find? .flowClassifier hookId = some c :=
    Option.ne_none_iff_exists'.1 fun hnone ↦ hs.find?_eq_none_iff.1 hnone hstored
  have hends : Ends ids .never (removeHook key hookId) s _ _ :=
    Ends.removeHook_stored hs hv.attached hnamed hfind
  obtain ⟨t, ⟨e, -, ⟨-, hpossible | h⟩ | ⟨b', u', hu', ⟨hpossible, -⟩ | ⟨-, hpossible | h⟩⟩⟩ |
    ⟨_, hrun, b', u', w', hu', hw', hz'⟩⟩ := hends.calm_cases
  · exact absurd hpossible Faults.not_possible_never
  · exact absurd h hstuck
  · exact absurd hpossible Faults.not_possible_never
  · exact absurd hpossible Faults.not_possible_never
  · exact absurd ht.named h
  · cases hu'.unique hu hs hv.attached
    cases hw'.unique hw (hu.sound hs) (Faults.not_feigns_never _) (Faults.not_feigns_never _)
    have htw : w.Tagged key ids :=
      (ht.steps hids hu.chainSteps.steps).steps hids hw.classifierSteps
    rw [hrun, hz'.unique hz (hw.sound (hu.sound hs)) htw]

def HookTag.member? (key : String) (port : Port) : Option Json := port.profile.bind (·.get? key)

/-- The port as it was, but for an empty profile where there was none, and for an entry under the
key that named no classifier. -/
inductive Restored (key : String) (v : Inventory) (p : Port) : Port → Prop
  | same : Restored key v p p
  | profiled (h : p.profile = none) : Restored key v p { p with profile := some Dict.empty }
  | cleared {profile : Json.Object} {entry : Json} (hprofile : p.profile = some profile)
      (hentry : profile.get? key = some entry)
      (hgone : ∀ hookId, entry = .str hookId → ¬ v.Stores .flowClassifier hookId) :
      Restored key v p { p with profile := some (profile.erase key) }

theorem Restored.retagged {v : Inventory}
    (h : ∀ hookId ∈ tag? key p, ¬ v.Stores .flowClassifier hookId) :
    Restored key v p (retagged key p none) := by
  rw [HookTag.retagged]
  cases hprofile : p.profile with
  | none =>
    have hempty : retag key Dict.empty none = (Dict.empty : Json.Object) := by
      ext1 k
      simp [retag]
    rw [Option.getD_none, hempty]
    exact .profiled hprofile
  | some profile =>
    rw [Option.getD_some, retag]
    cases hentry : profile.get? key with
    | none =>
      have hsame : profile.erase key = profile := by
        ext1 k
        rw [Dict.get?_erase]
        split
        · rename_i hk
          rw [hk, hentry]
        · rfl
      rw [hsame, ← hprofile]
      exact .same
    | some entry =>
      refine .cleared hprofile hentry fun hookId hhook ↦ h hookId ?_
      simp [tag?, Port.profileText, hprofile, hentry, hhook, Json.text?]

theorem Looked.inventory (h : Looked key s l₁ l₂ p none u) :
    u.toInventory = s.toInventory ∧ tag? key p = none ∨
      ∃ hookId, tag? key p = some hookId ∧ ¬ s.Stores .flowClassifier hookId ∧
        u.toInventory = { s.toInventory with ports := l₁ ++ retagged key p none :: l₂ } := by
  cases h with
  | bare htag => exact .inl ⟨rfl, htag⟩
  | healed htag _ hgone => exact .inr ⟨_, htag, hgone, rfl⟩

theorem Service.Tagged.fresh (h : s.Tagged key ids) (hids : Function.Injective ids) :
    ∀ p ∈ s.ports, tag? key p ≠ some (ids (s.drawn + 1)) := by
  intro p hp htag
  obtain ⟨n, hn, hid⟩ := h.drawn p hp _ htag
  have := hids hid
  omega

section

variable (hv : s.Valid ids) (hids : Function.Injective ids) (ht : s.Tagged key ids)
  (hid : Text.blank (ids (s.drawn + 1)) = false) (classifier : FlowClassifier)

include hv hids ht hid

theorem removeHook_untagged :
    ∃ z : Service, calm ids (removeHook key (ids (s.drawn + 1)))
        (s.add ids .flowClassifier classifier) = (.ok (), z.memory []) ∧
      z.toInventory = s.toInventory := by
  have hstep : Step key ids s (s.add ids .flowClassifier classifier) := .addClassifier classifier
  have hfree : (s.add ids .flowClassifier classifier).Free (ids (s.drawn + 1)) .flowClassifier :=
    hv.fresh_free hids
  have hsplit : (s.add ids .flowClassifier classifier).get .flowClassifier =
      s.flowClassifiers ++ s.issue ids .flowClassifier classifier :: [] :=
    Service.get_add s .flowClassifier classifier
  refine ⟨_, calm_removeHook (hv.step hids hstep) hids (ht.step hids hstep) hid ?_ ?_
    (.unlisted hfree) (.inr ⟨_, _, _, hsplit, rfl, hfree, rfl⟩) (.bare ?_), ?_⟩
  · exact ⟨_, List.mem_append_right _ List.mem_cons_self, rfl⟩
  · exact fun ⟨c, hc, hlisted, _⟩ ↦ hfree c hc hlisted
  · exact ht.fresh hids
  · rw [List.append_nil]
    rfl

variable {port : Port} (hport : s.ports = l₁ ++ q :: l₂) (hportId : Kind.port.key q ≠ "")
  (hsame : ∀ x, retagged key q x = retagged key port x) {m₁ m₂ : List PortChain} {c : PortChain}
  (hchain : s.portChains = m₁ ++ c :: m₂)

include hport hportId hsame hchain

theorem removeHook_unattached :
    ∃ z : Service, calm ids (removeHook key (ids (s.drawn + 1)))
        (withTag key ids s l₁ l₂ port classifier) = (.ok (), z.memory []) ∧
      z.toInventory = { s.toInventory with ports := l₁ ++ retagged key port none :: l₂ } := by
  obtain ⟨hstep, -⟩ := createHook_steps hv hids hport hportId hsame hchain classifier
  have hfree : (withTag key ids s l₁ l₂ port classifier).Free (ids (s.drawn + 1))
      .flowClassifier := hv.fresh_free hids
  have hsplit : (withTag key ids s l₁ l₂ port classifier).get .flowClassifier =
      s.flowClassifiers ++ s.issue ids .flowClassifier classifier :: [] :=
    Service.get_add s .flowClassifier classifier
  refine ⟨_, calm_removeHook (hv.step hids hstep) hids (ht.step hids hstep) hid ?_ ?_
    (.unlisted hfree) (.inr ⟨_, _, _, hsplit, rfl, hfree, rfl⟩)
    (.tagged rfl (tag?_retagged key port _)), ?_⟩
  · exact ⟨_, List.mem_append_right _ List.mem_cons_self, rfl⟩
  · exact fun ⟨c, hc, hlisted, _⟩ ↦ hfree c hc hlisted
  · rw [List.append_nil, retagged_retagged]
    rfl

theorem removeHook_installed (hchainId : Kind.portChain.key c ≠ "") :
    ∃ z : Service, calm ids (removeHook key (ids (s.drawn + 1)))
        (withHook key ids s l₁ l₂ port m₁ m₂ c classifier) = (.ok (), z.memory []) ∧
      z.toInventory = { s.toInventory with ports := l₁ ++ retagged key port none :: l₂ } := by
  obtain ⟨-, hsteps⟩ := createHook_steps hv hids hport hportId hsame hchain classifier
  have hfresh : s.Free (ids (s.drawn + 1)) .flowClassifier := hv.fresh_free hids
  have hvt := hv.steps hids hsteps
  let c' : PortChain :=
    { c with flowClassifiers := c.flowClassifiers ++ [ids (s.drawn + 1)] }
  have hu : Detached (ids (s.drawn + 1)) (withHook key ids s l₁ l₂ port m₁ m₂ c classifier) true
      _ :=
    @Detached.listed _ _ m₁ m₂ c' rfl (by simp [c'])
  -- detaching takes away just what attaching has put at the end
  have hback : c'.flowClassifiers.filter (· ≠ ids (s.drawn + 1)) = c.flowClassifiers := by
    have hnot : ids (s.drawn + 1) ∉ c.flowClassifiers := hfresh c (by simp [hchain])
    have hleft : c.flowClassifiers.filter (· ≠ ids (s.drawn + 1)) = c.flowClassifiers := by
      refine List.filter_eq_self.2 fun id hmem ↦ ?_
      have hne : id ≠ ids (s.drawn + 1) := fun he ↦ hnot (he ▸ hmem)
      simpa using hne
    rw [List.filter_append, hleft]
    simp
  have hsplit : (withHook key ids s l₁ l₂ port m₁ m₂ c classifier).get .flowClassifier =
      s.flowClassifiers ++ s.issue ids .flowClassifier classifier :: [] :=
    Service.get_add s .flowClassifier classifier
  refine ⟨_, calm_removeHook hvt hids (ht.steps hids hsteps) hid ?_ ?_ hu
    (.inr ⟨_, _, _, hsplit, rfl, hu.free hvt.attached, rfl⟩)
    (.tagged rfl (tag?_retagged key port _)), ?_⟩
  · exact ⟨_, List.mem_append_right _ List.mem_cons_self, rfl⟩
  · intro hstuck
    obtain ⟨d, hd, hlisted, hblank⟩ := hstuck
    have hmem : d ∈ m₁ ++ c' :: m₂ := hd
    have hother : d = c' ∨ d ∈ s.portChains := by
      rw [hchain]
      grind
    cases hother with
    | inl hd =>
      rw [hd] at hblank
      exact hchainId hblank
    | inr hd => exact hfresh d hd hlisted
  · rw [List.append_nil, retagged_retagged, hback]
    exact congrArg (fun chains ↦ { s.toInventory with
      ports := l₁ ++ retagged key port none :: l₂, portChains := chains }) hchain.symm

end

/-- An undisturbed removal of the hook leaves what was stored before, but for what is left of the
inspected port. -/
def TakenBack (key : String) (ids : Nat → String) (v : Inventory) (inspected : Element)
    (hookId : String) (n : Memory) : Prop :=
  ∃ l₁ p q l₂, v.ports = l₁ ++ p :: l₂ ∧ p.id = inspected.id ∧ Restored key v p q ∧
    ∃ m : Memory, (Request.removeHook hookId).run key ids { n with failures := [] } = (.ok (), m) ∧
      m.collections = Inventory.collections { v with ports := l₁ ++ q :: l₂ }

/-- Nothing is changed, but for a tag of the inspected port that named no classifier. -/
def LeftAlone (key : String) (v : Inventory) (inspected : Element) (w : Inventory) : Prop :=
  w = v ∨ ∃ l₁ p l₂ hookId, v.ports = l₁ ++ p :: l₂ ∧ p.id = inspected.id ∧
    tag? key p = some hookId ∧ ¬ v.Stores .flowClassifier hookId ∧
    w = { v with ports := l₁ ++ retagged key p none :: l₂ }

theorem Looked.leftAlone (h : Looked key s l₁ l₂ p none u) (hsplit : s.ports = l₁ ++ p :: l₂)
    (hid : p.id = inspected.id) : LeftAlone key s.toInventory inspected u.toInventory := by
  obtain ⟨hsame, -⟩ | ⟨hookId, htag, hgone, hsame⟩ := h.inventory
  · exact .inl hsame
  · exact .inr ⟨l₁, p, l₂, hookId, hsplit, hid, htag, hgone, hsame⟩

namespace Site.Ready

variable {x : Site} (hx : x.Ready key ids s inspected chain) (hv : s.Valid ids)
  (hids : Function.Injective ids) (ht : s.Tagged key ids) (hblank : ∀ n, Text.blank (ids n) = false)

include hx

theorem portId (hv : s.Valid ids) : x.port.id = inspected.id := by
  have hmem : x.port ∈ s.get .port := by
    rw [show s.get .port = _ from hx.ports]
    simp
  exact (hv.sound.idOf_eq .port hmem).trans (Guard.requireText_eq_ok_iff.1 hx.inspectedId).1.symm

theorem takenBack (hv : s.Valid ids) {q : Port} (hq : Restored key s.toInventory x.port q)
    {t z : Service} (hrun : calm ids (removeHook key hookId) t = (.ok (), z.memory []))
    (hz : z.toInventory = { s.toInventory with ports := x.portsBefore ++ q :: x.portsAfter })
    (rest : List Failure) : TakenBack key ids s.toInventory inspected hookId (t.memory rest) :=
  ⟨x.portsBefore, x.port, q, x.portsAfter, hx.ports, hx.portId hv, hq, z.memory [], hrun,
    congrArg Inventory.collections hz⟩

include hv hids ht hblank

theorem undone (hlooked : Looked key s x.portsBefore x.portsAfter x.port none u)
    (classifier : FlowClassifier) (rest : List Failure) :
    TakenBack key ids s.toInventory inspected (ids (u.drawn + 1 + 1))
        (Service.memory (Service.add ids { u with drawn := u.drawn + 1 } .flowClassifier
          classifier) rest) ∧
      TakenBack key ids s.toInventory inspected (ids (u.drawn + 1 + 1))
        ((withTag key ids { u with drawn := u.drawn + 1 } x.portsBefore x.portsAfter x.port
          classifier).memory rest) ∧
      TakenBack key ids s.toInventory inspected (ids (u.drawn + 1 + 1))
        ((withHook key ids { u with drawn := u.drawn + 1 } x.portsBefore x.portsAfter x.port
          x.chainsBefore x.chainsAfter x.chain classifier).memory rest) := by
  -- the look may have cleared a tag, so `q` stands where the port was read
  obtain ⟨hsame, q, hq, hqid, -, hretagged⟩ := hlooked.port hx.ports
  have hqkey : Kind.port.key q ≠ "" := by
    rw [show Kind.port.key q = Kind.port.key x.port from congrArg (Option.getD · "") hqid]
    exact hx.portId_ne
  obtain ⟨hdraw, -, -⟩ := hx.steps hv hids hlooked classifier
  have hvu := hv.steps hids hdraw
  have htu := ht.steps hids hdraw
  have hchains : u.portChains = x.chainsBefore ++ x.chain :: x.chainsAfter :=
    hsame.trans hx.chains
  have hcleared : Restored key s.toInventory x.port (retagged key x.port none) :=
    .retagged fun hookId htag ↦ (hx.bare hookId htag).2
  have hrest (l : List Port) :
      { u.toInventory with ports := l } = { s.toInventory with ports := l } := by
    obtain ⟨hinventory, -⟩ | ⟨_, -, -, hinventory⟩ := hlooked.inventory <;> rw [hinventory]
  refine ⟨?_, ?_, ?_⟩
  · obtain ⟨z, hrun, hz⟩ := removeHook_untagged hvu hids htu (hblank _) classifier
    obtain ⟨hinventory, -⟩ | ⟨_, -, -, hinventory⟩ := hlooked.inventory
    · refine hx.takenBack hv .same hrun (hz.trans ?_) rest
      rw [← hx.ports]
      exact hinventory
    · exact hx.takenBack hv hcleared hrun (hz.trans hinventory) rest
  · obtain ⟨z, hrun, hz⟩ := removeHook_unattached hvu hids htu (hblank _) classifier hq hqkey
      hretagged hchains
    exact hx.takenBack hv hcleared hrun (hz.trans (hrest _)) rest
  · obtain ⟨z, hrun, hz⟩ := removeHook_installed hvu hids htu (hblank _) classifier hq hqkey
      hretagged hchains hx.chainId_ne
    exact hx.takenBack hv hcleared hrun (hz.trans (hrest _)) rest

end Site.Ready

def Service.Worded (key : String) (s : Service) : Prop :=
  ∀ p ∈ s.ports, ∀ entry ∈ member? key p, ∃ hookId, tag? key p = some hookId

namespace Service.Worded

theorem retag (h : s.Worded key) (hsplit : s.ports = l₁ ++ p :: l₂) (x : Option String) :
    (s.put .port (l₁ ++ retagged key p x :: l₂)).Worded key := by
  intro q hq entry hentry
  have hmem : q = retagged key p x ∨ q ∈ s.ports := by
    have hq : q ∈ l₁ ++ retagged key p x :: l₂ := hq
    rw [hsplit]
    grind
  cases hmem with
  | inl hq =>
    subst hq
    cases x with
    | none => simp [member?, retagged, HookTag.retag] at hentry
    | some hookId => exact ⟨hookId, tag?_retagged key p _⟩
  | inr hq => exact h q hq entry hentry

theorem step (h : s.Worded key) (hstep : Step key ids s t) : t.Worded key := by
  cases hstep with
  | chain hchain =>
    rw [Worded, hchain.frame.1]
    exact h
  | draw => exact h
  | addClassifier r => exact h
  | hook r hsplit hid =>
    have hadded : (s.add ids .flowClassifier r).Worded key := h
    exact hadded.retag hsplit _
  | untag hsplit => exact h.retag hsplit none
  | dropClassifier hsplit hfree => exact h

theorem steps (h : s.Worded key) (hsteps : Steps key ids s t) : t.Worded key := by
  induction hsteps with
  | refl => exact h
  | tail _ hstep ih => exact ih.step hstep

end Service.Worded

theorem history_worded (hids : Function.Injective ids) (project : String) {ports : List Port}
    (hnone : ∀ p ∈ ports, member? key p = none) (events : List Event) {failures : List Failure}
    (hs : history key ids (seeded ids project ports) events = s.memory failures) :
    s.Worded key := by
  obtain ⟨s₀, hs₀, hbare, hprofiles⟩ := seeded_eq ids project ports
  have hworded : s₀.Worded key := by
    intro q hq entry hentry
    obtain ⟨p, hp, he⟩ := hprofiles q hq
    have hq : member? key q = none := by rw [← hnone p hp, member?, member?, he]
    exact absurd (hq ▸ hentry) (Option.not_mem_none entry)
  obtain ⟨rest, t, ht, hsteps⟩ := history_steps key hbare.valid hids [] events
  rw [hs₀, ht] at hs
  cases Service.memory_injective hs
  exact hworded.steps hsteps

/-- What an installation comes to. A hook that was installed can be taken back, and so can the
classifier that a partial error has left; any other error leaves all alone. -/
inductive Undoable (key : String) (ids : Nat → String) (v : Inventory) (inspected : Element) :
    Except Error String → Memory → Prop
  | installed {hookId : String} {n : Memory} (h : TakenBack key ids v inspected hookId n) :
      Undoable key ids v inspected (.ok hookId) n
  | halfway {e : Error} {n : Memory} {w : Inventory} {classifier : FlowClassifier} {hookId : String}
      (he : e.isPartial = true) (hn : n.collections = w.collections)
      (hcreated : w.flowClassifiers = v.flowClassifiers ++ [classifier])
      (hid : classifier.id = some hookId) (h : TakenBack key ids v inspected hookId n) :
      Undoable key ids v inspected (.error e) n
  | refused {e : Error} {n : Memory} {w : Inventory} (he : e.isPartial = false)
      (hn : n.collections = w.collections) (h : LeftAlone key v inspected w) :
      Undoable key ids v inspected (.error e) n

theorem installHook_undoable (hv : s.Valid ids) (hids : Function.Injective ids)
    (ht : s.Tagged key ids) (hblank : ∀ n, Text.blank (ids n) = false) (inspected chain : Element)
    (failures : List Failure) {r : Except Error String} {n : Memory}
    (hrun : (installHook key inspected chain).run (Memory.transport ids) (s.memory failures) =
      (r, n)) : Undoable key ids s.toInventory inspected r n := by
  by_cases hx : ∃ x : Site, x.Ready key ids s inspected chain
  · obtain ⟨x, hx⟩ := hx
    obtain ⟨rest, t, -, ⟨e, hrun', -, hfailed⟩ | ⟨_, hrun', hinstalled⟩⟩ :=
      Ends.installHook_ready hv hids hx failures Faults.any_covers
    · cases hrun.symm.trans hrun'
      obtain ⟨he, rfl⟩ | ⟨u, hlooked, ⟨he, rfl⟩ | ⟨classifier, _, _, hfailed⟩⟩ := hfailed
      · exact .refused he rfl (.inl rfl)
      · exact .refused he rfl (hlooked.leftAlone hx.ports (hx.portId hv))
      obtain ⟨huntagged, hunattached, -⟩ := hx.undone hv hids ht hblank hlooked classifier rest
      have hhooks : ∀ c, u.flowClassifiers ++ [c] = s.flowClassifiers ++ [c] := by
        rw [hlooked.flowClassifiers]
        exact fun _ ↦ rfl
      cases hfailed with
      | refused he => exact .refused he rfl (hlooked.leftAlone hx.ports (hx.portId hv))
      | untagged e => exact .halfway rfl rfl (hhooks _) rfl huntagged
      | unattached e => exact .halfway rfl rfl (hhooks _) rfl hunattached
    · cases hrun.symm.trans hrun'
      obtain ⟨u, classifier, hlooked, ⟨rfl, -⟩, rfl⟩ := hinstalled
      exact .installed (hx.undone hv hids ht hblank hlooked classifier rest).2.2
  · obtain ⟨rest, t, -, ⟨e, hrun', he, hsame⟩ | ⟨_, -, hfalse⟩⟩ :=
      Ends.installHook_unready hv.sound hx failures Faults.any_covers
    · cases hrun.symm.trans hrun'
      obtain rfl | ⟨l₁, port, l₂, hports, hid, hlooked⟩ := hsame
      · exact .refused he rfl (.inl rfl)
      · exact .refused he rfl (hlooked.leftAlone hports hid)
    · exact hfalse.elim

/-- Whatever calls are made to fail in an installation, what it comes to can be undone. Where the
ports were seeded with nothing under the key, nothing but tags stands there. -/
theorem removeHook_after_installHook (hids : Function.Injective ids)
    (hblank : ∀ n, Text.blank (ids n) = false) (project : String) {ports : List Port}
    (huntagged : ∀ p ∈ ports, tag? key p = none) (events : List Event) {m : Memory}
    (hm : m = history key ids (seeded ids project ports) events) (inspected chain : Element)
    (failures : List Failure) {r : Except Error String} {n : Memory}
    (hrun : (Request.installHook inspected chain).run key ids { m with failures } = (r, n)) :
    ∃ v : Inventory, m.collections = v.collections ∧ Undoable key ids v inspected r n ∧
      ((∀ p ∈ ports, member? key p = none) →
        ∀ p ∈ v.ports, ∀ entry ∈ member? key p, ∃ hookId, tag? key p = some hookId) := by
  have hreachable : Reachable key ids m := ⟨project, ports, events, huntagged, hm⟩
  obtain ⟨s, scheduled, rfl, hv, ht⟩ := hreachable.service hids
  refine ⟨s.toInventory, rfl, ?_, fun hnone ↦ history_worded hids project hnone events hm.symm⟩
  exact installHook_undoable hv hids ht hblank inspected chain failures hrun

theorem sample_taken_back :
    Function.Injective numberedId ∧ (∀ n, Text.blank (numberedId n) = false) ∧
      (∀ p ∈ Sample.ports, tag? defaultKey p = none) ∧
      ∃ e n, (Request.installHook Sample.inspected Sample.chain).run defaultKey numberedId
          { Sample.memory with failures := Sample.outages } = (.error e, n) ∧
        e.isPartial = true ∧
        ∃ (v : Inventory) (hookId : String), Sample.memory.collections = v.collections ∧
          TakenBack defaultKey numberedId v Sample.inspected hookId n := by
  refine ⟨numberedId_injective, numberedId_not_blank, by decide, _, _, rfl, rfl, ?_⟩
  obtain ⟨v, hv, hundoable, -⟩ := removeHook_after_installHook numberedId_injective
    numberedId_not_blank "project" (by decide) Sample.events (m := Sample.memory) rfl
    Sample.inspected Sample.chain Sample.outages rfl
  refine ⟨v, ?_⟩
  cases hundoable with
  | halfway he hn hcreated hid h => exact ⟨_, hv, h⟩
  | refused he hn h => cases he

end TrafficSteering
