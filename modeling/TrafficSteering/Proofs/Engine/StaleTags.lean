import TrafficSteering.Proofs.Engine.Histories
import TrafficSteering.Proofs.Engine.HookClassifiers

namespace TrafficSteering

open Engine HookTag

variable {α β γ : Type} {key : String} {ids : Nat → String} {s s' t t' : Service} {m n : Memory}
  {l₁ l₂ : List Port} {p : Port} {stale : String} {inspected chain : Element}

/-- Undisturbed, both programs have the same outcome, and where it is a value, they leave the same
memory. -/
def EndAlike (ids : Nat → String) (p : Program α) (s : Service) (q : Program α) (t : Service) :
    Prop :=
  ∃ r m n, calm ids p s = (r, m) ∧ calm ids q t = (r, n) ∧ ∀ a, r = .ok a → m = n

namespace EndAlike

variable {p : Program α} {q : Program β} {f : α → Program γ} {g : β → Program γ} {a : α} {b : β}

theorem fail (e : Error) : EndAlike ids (.fail e : Program α) s (.fail e) t :=
  ⟨.error e, _, _, rfl, rfl, nofun⟩

theorem step (hp : Atomic ids .never p s (.ok a) s') (hq : Atomic ids .never q t (.ok b) t')
    (h : EndAlike ids (f a) s' (g b) t') : EndAlike ids (p >>= f) s (q >>= g) t := by
  obtain ⟨r, m, n, hm, hn, hsame⟩ := h
  exact ⟨r, m, n, (calm_step hp).trans hm, (calm_step hq).trans hn, hsame⟩

theorem look {r : Except Error α} {g : α → Program γ}
    (hp : ∀ faults, Atomic ids faults p s r s ∧ Atomic ids faults p t r t)
    (hf : ∀ a, r = .ok a → EndAlike ids (f a) s (g a) t) :
    EndAlike ids (p >>= f) s (p >>= g) t := by
  obtain ⟨hs, ht⟩ := hp .never
  cases r with
  | error e => exact ⟨.error e, _, _, hs.stop.run_eq, ht.stop.run_eq, nofun⟩
  | ok a => exact step hs ht (hf a rfl)

theorem draw {f g : α → Program γ} {value : String → α} (hdrawn : t.drawn = s.drawn)
    (h : ∀ id, EndAlike ids (f (value id)) { s with drawn := s.drawn + 1 }
      (g (value id)) { t with drawn := t.drawn + 1 }) :
    EndAlike ids (.draw (fun id ↦ .done (value id)) >>= f) s
      (.draw (fun id ↦ .done (value id)) >>= g) t := by
  obtain ⟨r, m, n, hm, hn, hsame⟩ := h (ids (s.drawn + 1))
  refine ⟨r, m, n, hm, ?_, hsame⟩
  rw [← hdrawn] at hn
  exact hn

end EndAlike

theorem Atomic.liveHook_stale {faults : Faults} (hs : s.Sound ids)
    (hports : s.ports = l₁ ++ p :: l₂) (hid : Kind.port.key p ≠ "")
    (htag : tag? key p = some stale) (hvisible : stale ≠ "")
    (hgone : ¬ s.Stores .flowClassifier stale) :
    Atomic ids faults (HookTag.liveHook key p) s (.ok none)
      (s.put .port (l₁ ++ retagged key p none :: l₂)) := by
  obtain ⟨r, t, hlook, ⟨hblank, -⟩ | ⟨found, rfl, hlooked⟩⟩ :=
    Atomic.liveHook key hs hports hid
  · cases htag.symm.trans hblank
    exact absurd rfl hvisible
  · cases hlooked with
    | live htag' hstored =>
      cases htag'.symm.trans htag
      exact absurd hstored hgone
    | bare hnone => cases hnone.symm.trans htag
    | healed => exact hlook faults

theorem calm_createHook (hv : s.Valid ids) (hids : Function.Injective ids)
    {port q : Port} (hport : s.ports = l₁ ++ q :: l₂) (hportId : Kind.port.key q ≠ "")
    (hsame : ∀ x, retagged key q x = retagged key port x) {m₁ m₂ : List PortChain} {c : PortChain}
    (hchain : s.portChains = m₁ ++ c :: m₂) (hchainId : Kind.portChain.key c ≠ "")
    (classifier : FlowClassifier) (tagStep attachStep : String → String) :
    calm ids (do
      let created ← Gateway.create .flowClassifier classifier
      let hookId := created.id.getD ""
      let _ ← (HookTag.set key port (some hookId)).afterChanges true (tagStep hookId)
      let _ ← (attachClassifier c hookId).afterChanges true (attachStep hookId)
      return hookId) s =
        (.ok (ids (s.drawn + 1)),
          (withHook key ids s l₁ l₂ port m₁ m₂ c classifier).memory []) := by
  obtain ⟨t, ⟨e, -, hpossible, -⟩ | ⟨a, hrun, rfl, rfl⟩⟩ :=
    (Ends.createHook hv hids hport hportId hsame hchain hchainId classifier tagStep
      attachStep).undisturbed.calm_cases
  · exact absurd hpossible Faults.not_possible_never
  · exact hrun

/-- A port that was read before its tag was cleared is tagged as one that never had a tag. -/
theorem createHook_alike (hs : s.Valid ids) (ht : t.Valid ids) (hids : Function.Injective ids)
    (hports : s.ports = l₁ ++ p :: l₂) (hid : Kind.port.key p ≠ "")
    (hcleared : t = s.put .port (l₁ ++ retagged key p none :: l₂)) {m₁ m₂ : List PortChain}
    {c : PortChain} (hchains : s.portChains = m₁ ++ c :: m₂) (hchainId : Kind.portChain.key c ≠ "")
    (classifier : FlowClassifier) (tagStep attachStep : String → String) :
    EndAlike ids (do
      let created ← Gateway.create .flowClassifier classifier
      let hookId := created.id.getD ""
      let _ ← (HookTag.set key p (some hookId)).afterChanges true (tagStep hookId)
      let _ ← (attachClassifier c hookId).afterChanges true (attachStep hookId)
      return hookId) s (do
      let created ← Gateway.create .flowClassifier classifier
      let hookId := created.id.getD ""
      let _ ← (HookTag.set key (retagged key p (some stale)) (some hookId)).afterChanges true
        (tagStep hookId)
      let _ ← (attachClassifier c hookId).afterChanges true (attachStep hookId)
      return hookId) t := by
  subst hcleared
  have hsame (x : Option String) : retagged key (retagged key p none) x =
      retagged key (retagged key p (some stale)) x := by rw [retagged_retagged, retagged_retagged]
  -- whatever tag the port was read with, the new one takes its place
  refine ⟨_, _, _,
    calm_createHook hs hids hports hid (fun _ ↦ rfl) hchains hchainId classifier tagStep attachStep,
    calm_createHook ht hids rfl hid hsame hchains hchainId classifier tagStep attachStep,
    fun _ _ ↦ ?_⟩
  rw [withHook, withHook, withTag, withTag, retagged_retagged]
  rfl

theorem requireChain_alike (ids : Nat → String) (s t : Service)
    (h : t.portChains = s.portChains) (chainId : String) :
    ∃ r, (∀ faults, Atomic ids faults (requireChain chainId) s r s ∧
        Atomic ids faults (requireChain chainId) t r t) ∧
      ∀ c, r = .ok c ↔ chainId ≠ "" ∧ s.find? .portChain chainId = some c := by
  obtain ⟨r, hr⟩ : ReadsAlike ids (requireChain chainId) s t :=
    .bind (.get .portChain h chainId) fun _ ↦ ⟨_, fun _ ↦ ⟨.lift _, .lift _⟩⟩
  obtain ⟨r', hr', hok⟩ := Atomic.requireChain ids s chainId
  obtain ⟨rfl, -⟩ := (hr .never).1.unique (hr' .never)
  exact ⟨r, hr, hok⟩

/-- The tag is cleared before anything is made, and all that follows is read and made alike. -/
theorem installHook_alike (hv : s.Valid ids) (hids : Function.Injective ids)
    (hports : s.ports = l₁ ++ p :: l₂) (hinspected : inspected.id = p.id)
    (hbare : tag? key p = none) (hvisible : stale ≠ "")
    (hgone : ¬ s.Stores .flowClassifier stale) :
    EndAlike ids (installHook key inspected chain) s (installHook key inspected chain)
      (s.put .port (l₁ ++ retagged key p (some stale) :: l₂)) := by
  let t := s.put .port (l₁ ++ retagged key p (some stale) :: l₂)
  let u := s.put .port (l₁ ++ retagged key p none :: l₂)
  have ht : t.Sound ids := hv.sound.amend .port hports rfl
  refine .look (fun _ ↦ ⟨.lift _, .lift _⟩) fun inspectedId hinspectedId ↦ ?_
  refine .look (fun _ ↦ ⟨.lift _, .lift _⟩) fun chainId _ ↦ ?_
  obtain ⟨r, hr, hok⟩ := requireChain_alike ids s t rfl chainId
  refine .look hr fun c hc ↦ ?_
  obtain ⟨hchainId, hfind⟩ := (hok c).1 hc
  obtain ⟨rfl, m₁, m₂, hchains⟩ := Inventory.find?_eq_some hfind
  obtain ⟨hid, hvisibleId⟩ := Guard.requireText_eq_ok_iff.1 hinspectedId
  obtain rfl : Kind.port.key p = inspectedId := Kind.key_eq (hinspected.symm.trans hid)
  have hportId := Guard.ne_of_requireText hinspectedId
  -- without the tag the port is passed over; with it, the tag is cleared first
  have hget : Atomic ids .never (Gateway.get .port (Kind.port.key p)) s (.ok (some p)) s :=
    .get_split hv.sound hports hportId
  have hstained : t.get .port = l₁ ++ retagged key p (some stale) :: l₂ := rfl
  have hget' : Atomic ids .never _ t (.ok _) t := .get_split ht hstained hportId
  have hlook : Atomic ids .never (HookTag.liveHook key p) s (.ok none) s := by
    rw [HookTag.liveHook, hbare]
    exact .done
  have hlook' : Atomic ids .never (HookTag.liveHook key (retagged key p (some stale))) t
      (.ok none) u := by
    have hcleared : Atomic ids .never _ t _ _ := Atomic.liveHook_stale ht rfl hportId
      (tag?_retagged key p (some stale)) hvisible hgone
    rwa [retagged_retagged] at hcleared
  refine .step hget hget' (.step (.lift (.ok p)) (.lift (.ok _)) (.step hlook hlook' ?_))
  obtain ⟨r, hr⟩ : ReadsAlike ids (Lookup.chainTree c) s u :=
    .chainTree (networkElement_retag hports none) rfl rfl c
  refine .look hr fun tree _ ↦ ?_
  have hbuild : HookClassifier.build tree (retagged key p (some stale)) inspected.portIps =
      HookClassifier.build tree p inspected.portIps := rfl
  rw [hbuild]
  obtain ⟨e, he⟩ | ⟨classifier, hclassifier⟩ :=
    HookClassifier.build_cases tree p inspected.portIps
  · rw [he]
    exact .fail e
  · rw [hclassifier]
    have hdrawn : Steps key ids s { s with drawn := s.drawn + 1 } := .single .draw
    have hdrawn' : Steps key ids s { u with drawn := u.drawn + 1 } :=
      (Relation.ReflTransGen.single (.untag hports)).tail .draw
    refine .draw rfl fun id ↦ ?_
    exact createHook_alike (hv.steps hids hdrawn) (hv.steps hids hdrawn') hids hports hportId rfl
      hchains hchainId (classifier id)
      (fun hookId ↦ s!"tag Port {Kind.port.key p} with inspection hook {hookId}")
      fun hookId ↦ attachStep hookId (Kind.portChain.key c)

/-- The port and the chain are named by ids that can be seen, and the chain is stored. -/
def Inventory.Asked (v : Inventory) (inspected chain : Element) : Prop :=
  (∃ id, inspected.id = some id ∧ Text.blank id = false) ∧
    ∃ id, chain.id = some id ∧ Text.blank id = false ∧ v.Stores .portChain id

/-- Nothing can be looked up by the empty tag, so that it stays where it is. -/
theorem Atomic.installHook_blankTag {faults : Faults} (hs : s.Sound ids)
    (hports : s.ports = l₁ ++ p :: l₂) (hinspected : inspected.id = p.id)
    (htag : tag? key p = some "") (hasked : s.Asked inspected chain) :
    Atomic ids faults (installHook key inspected chain) s
      (.error (.invalidArgument "Flow Classifier Id")) s := by
  obtain ⟨⟨inspectedId, hid, hvisible⟩, chainId, hchain, hseen, c, hc, hchainId⟩ := hasked
  obtain rfl := Kind.key_eq hchainId
  obtain rfl : Kind.port.key p = inspectedId := Kind.key_eq (hinspected.symm.trans hid)
  obtain ⟨m₁, m₂, hchains⟩ := List.append_of_mem hc
  have hinspectedId : Guard.requireId inspected "Inspected port" = .ok (Kind.port.key p) :=
    Guard.requireText_eq_ok_iff.2 ⟨hid, hvisible⟩
  have hnamed : Guard.requireId chain "Inspection port" = .ok (Kind.portChain.key c) :=
    Guard.requireText_eq_ok_iff.2 ⟨hchain, hseen⟩
  have hblank : Atomic ids faults (HookTag.liveHook key p) s
      (.error (.invalidArgument "Flow Classifier Id")) s := by
    rw [HookTag.liveHook, htag]
    exact stop (get_blank s .flowClassifier)
  rw [installHook, hinspectedId, hnamed]
  refine bind (lift _) (bind (lift _) ?_)
  refine bind (requireChain_stored hs hchains (Guard.ne_of_requireText hnamed)) ?_
  refine bind (get_split hs hports (Guard.ne_of_requireText hinspectedId)) ?_
  exact bind (lift _) (stop hblank)

theorem installHook_unasked (hs : s.Sound ids) (h : ¬ s.Asked inspected chain)
    (hchains : t.portChains = s.portChains) :
    ∃ e, ∀ faults, Atomic ids faults (installHook key inspected chain) s (.error e) s ∧
      Atomic ids faults (installHook key inspected chain) t (.error e) t := by
  rw [installHook]
  cases hinspected : Guard.requireId inspected "Inspected port" with
  | error e => exact ⟨e, fun _ ↦ ⟨.stop (.lift _), .stop (.lift _)⟩⟩
  | ok inspectedId =>
    cases hchain : Guard.requireId chain "Inspection port" with
    | error e =>
      exact ⟨e, fun _ ↦ ⟨.bind (.lift (.ok _)) (.stop (.lift _)),
        .bind (.lift (.ok _)) (.stop (.lift _))⟩⟩
    | ok chainId =>
      obtain ⟨r, hr, hok⟩ := requireChain_alike ids s t hchains chainId
      cases r with
      | error e =>
        exact ⟨e, fun faults ↦ ⟨.bind (.lift (.ok _)) (.bind (.lift (.ok _)) (hr faults).1.stop),
          .bind (.lift (.ok _)) (.bind (.lift (.ok _)) (hr faults).2.stop)⟩⟩
      | ok c =>
        obtain ⟨hid, hvisible⟩ := Guard.requireText_eq_ok_iff.1 hinspected
        obtain ⟨hchainId, hseen⟩ := Guard.requireText_eq_ok_iff.1 hchain
        exact absurd ⟨⟨_, hid, hvisible⟩, _, hchainId, hseen,
          hs.stores_of_find? ((hok c).1 rfl).2⟩ h

/-- A tag that names no stored classifier, set from outside, neither blocks nor changes an
installation. The empty one does block it wherever both ids can be seen and the chain is stored, for
it is looked up all the same; else the installation fails as it would have without it. -/
theorem installHook_stale (chain : Element) (hids : Function.Injective ids)
    (hm : Reachable key ids m) (hcalm : m.failures = []) {v w : Inventory}
    (hv : m.collections = v.collections) (hports : v.ports = l₁ ++ p :: l₂)
    (hbare : tag? key p = none) (hgone : ¬ v.Stores .flowClassifier stale)
    (hinspected : inspected.id = p.id)
    (hw : w = { v with ports := l₁ ++ retagged key p (some stale) :: l₂ })
    (hn : n = { m with collections := w.collections }) :
    (stale ≠ "" → ∃ r m' n',
      (Request.installHook inspected chain).run key ids m = (r, m') ∧
      (Request.installHook inspected chain).run key ids n = (r, n') ∧
      ∀ hookId, r = .ok hookId → m' = n') ∧
    (stale = "" →
      (v.Asked inspected chain → (Request.installHook inspected chain).run key ids n =
        (.error (.invalidArgument "Flow Classifier Id"), n)) ∧
      (¬ v.Asked inspected chain → ∃ e,
        (Request.installHook inspected chain).run key ids m = (.error e, m) ∧
        (Request.installHook inspected chain).run key ids n = (.error e, n))) := by
  obtain ⟨s, failures, rfl, hs, -⟩ := hm.service hids
  cases hcalm
  obtain rfl := Inventory.collections_injective hv
  subst hw hn
  constructor
  · intro hvisible
    exact installHook_alike hs hids hports hinspected hbare hvisible hgone
  · rintro rfl
    have ht : (s.put .port (l₁ ++ retagged key p (some "") :: l₂)).Sound ids :=
      hs.sound.amend .port hports rfl
    constructor
    · intro hasked
      have hrun : Atomic ids .never _ _ _ _ := Atomic.installHook_blankTag ht rfl hinspected
        (tag?_retagged key p (some "")) hasked
      exact hrun.run_eq
    · intro hunasked
      obtain ⟨e, he⟩ := installHook_unasked hs.sound hunasked
        (t := s.put .port (l₁ ++ retagged key p (some "") :: l₂)) rfl
      exact ⟨e, (he .never).1.run_eq, (he .never).2.run_eq⟩

def Sample.stained (stale : String) : Memory :=
  { Sample.memory with
    collections := { Sample.memory.collections with
      ports := Kind.port.written [{ id := some "left" }, { id := some "right" },
        retagged defaultKey { id := some "inspected" } (some stale)] } }

theorem sample_stained :
    Function.Injective numberedId ∧ Reachable defaultKey numberedId Sample.memory ∧
      Sample.memory.failures = [] ∧
      (∃ v : Inventory, Sample.memory.collections = v.collections ∧
        v.ports = [{ id := some "left" }, { id := some "right" }] ++
          { id := some "inspected" } :: [] ∧
        ∀ stale, ¬ v.Stores .flowClassifier stale) ∧
      (∃ n, (Request.installHook Sample.inspected Sample.chain).run defaultKey numberedId
          Sample.memory = (.ok (numberedId 5), n) ∧
        (Request.installHook Sample.inspected Sample.chain).run defaultKey numberedId
          (Sample.stained "gone") = (.ok (numberedId 5), n)) ∧
      (Request.installHook Sample.inspected Sample.chain).run defaultKey numberedId
          (Sample.stained "") =
        (.error (.invalidArgument "Flow Classifier Id"), Sample.stained "") := by
  have hreachable : Reachable defaultKey numberedId Sample.memory :=
    ⟨"project", Sample.ports, Sample.events, by decide, rfl⟩
  obtain ⟨s, failures, hs, -⟩ := hreachable.service numberedId_injective
  obtain ⟨v, hv⟩ : ∃ v : Inventory, Sample.memory.collections = v.collections :=
    ⟨s.toInventory, congrArg Memory.collections hs⟩
  have hports : v.ports = [{ id := some "left" }, { id := some "right" }] ++
      { id := some "inspected" } :: [] :=
    Kind.port.written_injective ((congrArg Collections.ports hv).symm.trans rfl)
  have hclassifiers : v.flowClassifiers = [] :=
    Kind.flowClassifier.written_injective ((congrArg Collections.flowClassifiers hv).symm.trans rfl)
  have hgone (stale : String) : ¬ v.Stores .flowClassifier stale := fun ⟨c, hc, _⟩ ↦ by
    rw [Inventory.get, hclassifiers] at hc
    cases hc
  let w (stale : String) : Inventory :=
    { v with ports := [{ id := some "left" }, { id := some "right" }] ++
        retagged defaultKey { id := some "inspected" } (some stale) :: [] }
  have hstained (stale : String) : Sample.stained stale =
      { Sample.memory with collections := (w stale).collections } := by
    rw [Sample.stained, hv]
    rfl
  have hrun : (Request.installHook Sample.inspected Sample.chain).run defaultKey numberedId
      Sample.memory = (.ok (numberedId 5), ((Request.installHook Sample.inspected
        Sample.chain).run defaultKey numberedId Sample.memory).2) := rfl
  have hid : Sample.inspected.id = some "inspected" := rfl
  obtain ⟨hsame, -⟩ := installHook_stale Sample.chain numberedId_injective hreachable rfl hv hports
    rfl (hgone "gone") hid rfl (hstained "gone")
  obtain ⟨-, hblocked⟩ := installHook_stale Sample.chain numberedId_injective hreachable rfl hv
    hports rfl (hgone "") hid rfl (hstained "")
  refine ⟨numberedId_injective, hreachable, rfl, ⟨v, hv, hports, hgone⟩, ?_, ?_⟩
  · obtain ⟨r, m', n', hm, hn, heq⟩ := hsame (by decide)
    cases hm.symm.trans hrun
    exact ⟨_, hrun, by rw [hn, ← heq _ rfl]⟩
  · by_cases hasked : v.Asked Sample.inspected Sample.chain
    · exact (hblocked rfl).1 hasked
    · obtain ⟨e, he, -⟩ := (hblocked rfl).2 hasked
      cases he.symm.trans hrun

end TrafficSteering
