import TrafficSteering.Proofs.Engine.Operations
import TrafficSteering.Proofs.Engine.PartialErrors
import TrafficSteering.Proofs.Engine.Tags

namespace TrafficSteering

open Engine HookTag

variable {key : String} {ids : Nat → String} {s t : Service}

theorem Service.Valid.fresh_free (hv : s.Valid ids) (hids : Function.Injective ids) :
    s.Free (ids (s.drawn + 1)) .flowClassifier := by
  intro c hc hlisted
  obtain ⟨r, hr, hid⟩ := hv.attached.stored c hc _ hlisted
  exact hv.sound.fresh hids .flowClassifier (by decide) r hr (Kind.key_eq hid)

theorem Looked.steps {l₁ l₂ : List Port} {port : Port} {found : Option String}
    (h : Looked key s l₁ l₂ port found t) (hsplit : s.ports = l₁ ++ port :: l₂) :
    Steps key ids s t := by
  cases h with
  | live | bare => exact .refl
  | healed => exact .single (.untag hsplit)

theorem Looked.port {l₁ l₂ : List Port} {port : Port} (h : Looked key s l₁ l₂ port none t)
    (hsplit : s.ports = l₁ ++ port :: l₂) :
    t.portChains = s.portChains ∧ ∃ q, t.ports = l₁ ++ q :: l₂ ∧ q.id = port.id ∧
      tag? key q = none ∧ ∀ x, retagged key q x = retagged key port x := by
  cases h with
  | bare htag => exact ⟨rfl, port, hsplit, rfl, htag, fun _ ↦ rfl⟩
  | healed htag hid hgone =>
    exact ⟨rfl, _, rfl, rfl, tag?_retagged key port none, retagged_retagged key port none⟩

theorem Looked.vacant {l₁ l₂ : List Port} {port : Port} (h : Looked key s l₁ l₂ port none t) :
    ∀ hookId ∈ tag? key port, hookId ≠ "" ∧ ¬ s.Stores .flowClassifier hookId := by
  intro hookId htag
  cases h with
  | bare hnone => cases hnone.symm.trans (Option.mem_def.1 htag)
  | healed htag' hid hgone =>
    cases htag'.symm.trans htag
    exact ⟨hid, hgone⟩

theorem Looked.chainTree (ids : Nat → String) {l₁ l₂ : List Port} {port : Port}
    {found : Option String} (h : Looked key s l₁ l₂ port found t)
    (hsplit : s.ports = l₁ ++ port :: l₂) (c : PortChain) :
    ReadsAlike ids (Lookup.chainTree c) s t := by
  cases h with
  | live | bare => exact ReadsAlike.chainTree (fun _ _ ↦ rfl) rfl rfl c
  | healed => exact ReadsAlike.chainTree (networkElement_retag hsplit none) rfl rfl c

section

variable (key ids) (s : Service) (l₁ l₂ : List Port) (port : Port) (m₁ m₂ : List PortChain)
  (c : PortChain) (classifier : FlowClassifier)

def withTag : Service :=
  (s.add ids .flowClassifier classifier).put .port
    (l₁ ++ retagged key port (some (ids (s.drawn + 1))) :: l₂)

def withHook : Service :=
  (withTag key ids s l₁ l₂ port classifier).put .portChain
    (m₁ ++ { c with flowClassifiers := c.flowClassifiers ++ [ids (s.drawn + 1)] } :: m₂)

/-- How far the creation of a hook has come where it fails. -/
inductive HookFailed (tagStep attachStep : String) : Error → Service → Prop
  | refused {e : Error} (he : e.isPartial = false) : HookFailed tagStep attachStep e s
  | untagged (e : Error) :
      HookFailed tagStep attachStep (.partialApply tagStep e) (s.add ids .flowClassifier classifier)
  | unattached (e : Error) :
      HookFailed tagStep attachStep (.partialApply attachStep e)
        (withTag key ids s l₁ l₂ port classifier)

end

theorem Ends.createHook {faults : Faults} (hv : s.Valid ids) (hids : Function.Injective ids)
    {l₁ l₂ : List Port} {port q : Port} (hport : s.ports = l₁ ++ q :: l₂)
    (hportId : Kind.port.key q ≠ "") (hsame : ∀ x, retagged key q x = retagged key port x)
    {m₁ m₂ : List PortChain} {c : PortChain} (hchain : s.portChains = m₁ ++ c :: m₂)
    (hchainId : Kind.portChain.key c ≠ "") (classifier : FlowClassifier)
    (tagStep attachStep : String → String) :
    Ends ids faults (do
      let created ← Gateway.create .flowClassifier classifier
      let hookId := created.id.getD ""
      let _ ← (HookTag.set key port (some hookId)).afterChanges true (tagStep hookId)
      let _ ← (attachClassifier c hookId).afterChanges true (attachStep hookId)
      return hookId) s
      (fun e t ↦ faults.Possible ∧ HookFailed key ids s l₁ l₂ port classifier
        (tagStep (ids (s.drawn + 1))) (attachStep (ids (s.drawn + 1))) e t)
      fun a t ↦ a = ids (s.drawn + 1) ∧ t = withHook key ids s l₁ l₂ port m₁ m₂ c classifier := by
  have hcreated : (s.add ids .flowClassifier classifier).Sound ids :=
    hv.sound.add hids .flowClassifier (by decide) classifier
  have htagged : (withTag key ids s l₁ l₂ port classifier).Sound ids :=
    hcreated.amend .port hport (Port.mk.inj (hsame none)).1.symm
  have hfresh : ids (s.drawn + 1) ∉ c.flowClassifiers :=
    hv.fresh_free hids c (by simp [hchain])
  refine Ends.pass (.create hv.sound hids .flowClassifier (by decide) classifier)
    (fun hpossible e he ↦ ⟨hpossible, .refused he⟩) ?_
  refine Ends.passAfter (.setTag hcreated hport hportId _ (hsame _))
    (fun hpossible e _ ↦ ⟨hpossible, .untagged e⟩) ?_
  simp only [show (s.issue ids .flowClassifier classifier).id.getD "" = ids (s.drawn + 1) from rfl,
    attachClassifier_eq hfresh]
  refine Ends.passAfter (.setClassifiers htagged hchain hchainId _)
    (fun hpossible e _ ↦ ⟨hpossible, .unattached e⟩) ?_
  exact Ends.done ⟨rfl, rfl⟩

theorem createHook_steps (hv : s.Valid ids) (hids : Function.Injective ids)
    {l₁ l₂ : List Port} {port q : Port} (hport : s.ports = l₁ ++ q :: l₂)
    (hportId : Kind.port.key q ≠ "") (hsame : ∀ x, retagged key q x = retagged key port x)
    {m₁ m₂ : List PortChain} {c : PortChain} (hchain : s.portChains = m₁ ++ c :: m₂)
    (classifier : FlowClassifier) :
    Step key ids s (withTag key ids s l₁ l₂ port classifier) ∧
      Steps key ids s (withHook key ids s l₁ l₂ port m₁ m₂ c classifier) := by
  have htag : Step key ids s (withTag key ids s l₁ l₂ port classifier) := by
    rw [withTag, ← hsame]
    exact .hook classifier hport hportId
  refine ⟨htag, (Relation.ReflTransGen.single htag).tail (.chain (.attach hchain ?_ ?_))⟩
  · exact ⟨s.issue ids .flowClassifier classifier, by
      simp [withTag, Service.add, Service.put, Inventory.set, Inventory.get], rfl⟩
  · exact hv.fresh_free hids

/-- Where a hook can be installed: the port and the chain, in their places. -/
structure Site where
  port : Port
  chain : PortChain
  portsBefore : List Port
  portsAfter : List Port
  chainsBefore : List PortChain
  chainsAfter : List PortChain

structure Site.Ready (x : Site) (key : String) (ids : Nat → String) (s : Service)
    (inspected chain : Element) : Prop where
  inspectedId : Guard.requireId inspected "Inspected port" = .ok (Kind.port.key x.port)
  chainId : Guard.requireId chain "Inspection port" = .ok (Kind.portChain.key x.chain)
  ports : s.ports = x.portsBefore ++ x.port :: x.portsAfter
  chains : s.portChains = x.chainsBefore ++ x.chain :: x.chainsAfter
  bare : ∀ hookId ∈ tag? key x.port, hookId ≠ "" ∧ ¬ s.Stores .flowClassifier hookId
  spanned : ∃ tree, (∀ faults, Atomic ids faults (Lookup.chainTree x.chain) s (.ok tree) s) ∧
    Spanned tree

theorem Guard.ne_of_requireText {value : Option String} {name id : String}
    (h : requireText value name = .ok id) : id ≠ "" :=
  Text.ne_empty_of_blank (requireText_eq_ok_iff.1 h).2

def InstallFailed (x : Site) (key : String) (ids : Nat → String) (s : Service) (e : Error)
    (t : Service) : Prop :=
  e.isPartial = false ∧ t = s ∨
    ∃ u, Looked key s x.portsBefore x.portsAfter x.port none u ∧
      (e.isPartial = false ∧ t = u ∨ ∃ classifier tagStep attachStep,
        HookFailed key ids { u with drawn := u.drawn + 1 } x.portsBefore x.portsAfter x.port
          classifier tagStep attachStep e t)

/-- What an installation leaves that comes to its end, its classifier built for the whole chain. -/
def Installed (x : Site) (fallback : List String) (key : String) (ids : Nat → String)
    (s : Service) (hookId : String) (t : Service) : Prop :=
  ∃ u classifier, Looked key s x.portsBefore x.portsAfter x.port none u ∧
    (hookId = ids (u.drawn + 1 + 1) ∧ ∃ tree,
      (∀ faults, Atomic ids faults (Lookup.chainTree x.chain) s (.ok tree) s) ∧
      Built tree x.port fallback (ids (u.drawn + 1)) classifier) ∧
    t = withHook key ids { u with drawn := u.drawn + 1 } x.portsBefore x.portsAfter x.port
      x.chainsBefore x.chainsAfter x.chain classifier

namespace Site.Ready

variable {x : Site} {inspected chain : Element}

theorem portId_ne (hx : x.Ready key ids s inspected chain) : Kind.port.key x.port ≠ "" :=
  Guard.ne_of_requireText hx.inspectedId

theorem chainId_ne (hx : x.Ready key ids s inspected chain) : Kind.portChain.key x.chain ≠ "" :=
  Guard.ne_of_requireText hx.chainId

end Site.Ready

theorem Ends.installHook_ready {faults : Faults} (hv : s.Valid ids) (hids : Function.Injective ids)
    {inspected chain : Element} {x : Site} (hx : x.Ready key ids s inspected chain) :
    Ends ids faults (installHook key inspected chain) s
      (fun e t ↦ faults.Possible ∧ InstallFailed x key ids s e t)
      fun a t ↦ Installed x inspected.portIps key ids s a t := by
  have hfindPort : s.find? .port (Kind.port.key x.port) = some x.port :=
    hv.sound.find?_of_split hx.ports
  rw [installHook, hx.inspectedId, hx.chainId]
  have hearly : faults.Possible → ∀ e : Error, e.isPartial = false →
      faults.Possible ∧ InstallFailed x key ids s e s := fun hpossible e he ↦
    ⟨hpossible, .inl ⟨he, rfl⟩⟩
  refine Ends.pass (.lift _) hearly (Ends.pass (.lift _) hearly ?_)
  refine Ends.pass (.requireChain_stored hv.sound hx.chains hx.chainId_ne) hearly ?_
  refine Ends.pass (.get_of_ne s .port hx.portId_ne) hearly ?_
  rw [hfindPort]
  refine Ends.pass (.lift _) hearly ?_
  obtain ⟨r, u, hlook, hcases⟩ := Atomic.liveHook key hv.sound hx.ports hx.portId_ne
  obtain ⟨htag, -, -⟩ | ⟨found, rfl, hlooked⟩ := hcases
  · exact absurd rfl (hx.bare "" htag).1
  cases found with
  | some hookId =>
    cases hlooked with
    | live htag hstored => exact absurd hstored (hx.bare hookId htag).2
  | none =>
    obtain ⟨hsameChains, q, hq, hqid, -, hsame⟩ := hlooked.port hx.ports
    have hqkey : Kind.port.key q ≠ "" := by
      rw [show Kind.port.key q = Kind.port.key x.port from congrArg (Option.getD · "") hqid]
      exact hx.portId_ne
    have hvu : Service.Valid ids { u with drawn := u.drawn + 1 } :=
      hv.steps hids ((hlooked.steps hx.ports).tail .draw)
    have hmiddle : faults.Possible → ∀ e : Error, e.isPartial = false →
        faults.Possible ∧ InstallFailed x key ids s e u := fun hpossible e he ↦
      ⟨hpossible, .inr ⟨u, hlooked, .inl ⟨he, rfl⟩⟩⟩
    -- a cleared tag does not show in the chain, which is read as before the look
    obtain ⟨tree, htree, hspanned⟩ := hx.spanned
    obtain ⟨r, hr⟩ := hlooked.chainTree ids hx.ports x.chain
    obtain ⟨rfl, -⟩ := (htree .never).unique (hr .never).1
    refine Ends.pass (hlook _) hearly (Ends.pass (hr faults).2 hmiddle ?_)
    obtain ⟨r, w, hbuild, ⟨hnot, -⟩ | ⟨-, ⟨classifier, rfl, hbuilt⟩, rfl⟩⟩ :=
      Atomic.build ids u tree x.port inspected.portIps
    · exact absurd hspanned hnot
    refine Ends.pass (hbuild _) hmiddle ?_
    refine (Ends.createHook hvu hids hq hqkey hsame (hsameChains ▸ hx.chains) hx.chainId_ne
      classifier (fun hookId ↦ s!"tag Port {Kind.port.key x.port} with inspection hook {hookId}")
      fun hookId ↦ attachStep hookId (Kind.portChain.key x.chain)).mono ?_ ?_
    · rintro e t ⟨hpossible, hfailed⟩
      exact ⟨hpossible, .inr ⟨u, hlooked, .inr ⟨classifier, _, _, hfailed⟩⟩⟩
    · rintro a t ⟨rfl, rfl⟩
      exact ⟨u, classifier, hlooked, ⟨rfl, tree, htree, hbuilt⟩, rfl⟩

/-- No more is changed than a tag of the inspected port whose classifier is gone. -/
def Healed (key : String) (s : Service) (inspected : Element) (t : Service) : Prop :=
  t = s ∨ ∃ l₁ port l₂, s.ports = l₁ ++ port :: l₂ ∧ Kind.port.idOf port = inspected.id ∧
    Looked key s l₁ l₂ port none t

theorem Ends.installHook_unready {faults : Faults} (hs : s.Sound ids) {inspected chain : Element}
    (hx : ¬ ∃ x : Site, x.Ready key ids s inspected chain) :
    Ends ids faults (installHook key inspected chain) s
      (fun e t ↦ e.isPartial = false ∧ Healed key s inspected t) fun _ _ ↦ False := by
  have hearly (e : Error) (he : e.isPartial = false) :
      e.isPartial = false ∧ Healed key s inspected s := ⟨he, .inl rfl⟩
  refine Ends.look (fun _ ↦ .lift _) (.requireText _ _) hearly fun inspectedId hinspected ↦ ?_
  refine Ends.look (fun _ ↦ .lift _) (.requireText _ _) hearly fun chainId hchain ↦ ?_
  obtain ⟨r, hr, hrequired⟩ := Atomic.requireChain ids s chainId
  refine Ends.look hr (.requireChain chainId) hearly fun c hc ↦ ?_
  obtain ⟨rfl, m₁, m₂, hchains⟩ := Inventory.find?_eq_some ((hrequired c).1 hc).2
  refine Ends.look (fun _ ↦ .get s .port inspectedId) (.get .port inspectedId) hearly
    fun found hfound ↦ ?_
  refine Ends.look (fun _ ↦ .lift _) (.requireFound found _ _) hearly fun port hport ↦ ?_
  obtain ⟨hportId, hfind⟩ := Service.fetch_eq_ok.1 hfound
  rw [Guard.requireFound_eq_ok.1 hport] at hfind
  obtain ⟨rfl, l₁, l₂, hports⟩ := Inventory.find?_eq_some hfind
  have hidOf : Kind.port.idOf port = inspected.id :=
    (hs.idOf_eq .port (by simp [hports])).trans (Guard.requireText_eq_ok_iff.1 hinspected).1.symm
  -- the look at the tag may heal it, the only change that a refused installation makes
  obtain ⟨r, u, hlook, hcases⟩ := Atomic.liveHook key hs hports hportId
  obtain ⟨-, ⟨e, rfl, he⟩, rfl⟩ | ⟨found, rfl, hlooked⟩ := hcases
  · refine Ends.step (hlook _) (fun _ ↦ hearly) ?_ fun _ h ↦ nomatch h
    intro e' he'
    cases he'
    exact hearly e he
  refine Ends.pass (hlook _) (fun _ ↦ hearly) ?_
  cases found with
  | some hookId =>
    cases hlooked with
    | live => exact Ends.fail ⟨rfl, .inl rfl⟩
  | none =>
    have hmiddle : Healed key s inspected u := .inr ⟨l₁, port, l₂, hports, hidOf, hlooked⟩
    obtain ⟨r, hr⟩ := hlooked.chainTree ids hports c
    refine Ends.look (fun faults ↦ (hr faults).2) (.chainTree c) (fun _ he ↦ ⟨he, hmiddle⟩)
      fun tree htree ↦ ?_
    obtain ⟨r, w, hbuild, ⟨-, ⟨e, rfl, he⟩, rfl⟩ | ⟨hspanned, -⟩⟩ :=
      Atomic.build ids u tree port inspected.portIps
    · refine Ends.step (hbuild _) (fun _ _ he ↦ ⟨he, hmiddle⟩) ?_ fun _ h ↦ nomatch h
      intro e' he'
      cases he'
      exact ⟨he, hmiddle⟩
    -- all checks are passed, so the site is ready after all
    · let x : Site := ⟨port, c, l₁, l₂, m₁, m₂⟩
      have hready : x.Ready key ids s inspected chain :=
        { inspectedId := hinspected
          chainId := hchain
          ports := hports
          chains := hchains
          bare := hlooked.vacant
          spanned := ⟨tree, fun faults ↦ htree ▸ (hr faults).1, hspanned⟩ }
      exact absurd ⟨x, hready⟩ hx

/-- The steps by which an installation goes on once no hook was found on the port. -/
theorem Site.Ready.steps (hv : s.Valid ids) (hids : Function.Injective ids)
    {inspected chain : Element} {x : Site} (hx : x.Ready key ids s inspected chain) {u : Service}
    (hlooked : Looked key s x.portsBefore x.portsAfter x.port none u)
    (classifier : FlowClassifier) :
    Steps key ids s { u with drawn := u.drawn + 1 } ∧
      Step key ids { u with drawn := u.drawn + 1 }
        (withTag key ids { u with drawn := u.drawn + 1 } x.portsBefore x.portsAfter x.port
          classifier) ∧
      Steps key ids { u with drawn := u.drawn + 1 }
        (withHook key ids { u with drawn := u.drawn + 1 } x.portsBefore x.portsAfter x.port
          x.chainsBefore x.chainsAfter x.chain classifier) := by
  obtain ⟨hsameChains, q, hq, hqid, -, hsame⟩ := hlooked.port hx.ports
  have hqkey : Kind.port.key q ≠ "" := by
    rw [show Kind.port.key q = Kind.port.key x.port from congrArg (Option.getD · "") hqid]
    exact hx.portId_ne
  have hdraw : Steps key ids s { u with drawn := u.drawn + 1 } :=
    (hlooked.steps hx.ports).tail .draw
  exact ⟨hdraw, createHook_steps (hv.steps hids hdraw) hids hq hqkey hsame
    (hsameChains ▸ hx.chains) classifier⟩

theorem installHook_inSteps (hv : s.Valid ids) (hids : Function.Injective ids)
    (inspected chain : Element) :
    InSteps (Step key ids) ids (installHook key inspected chain) s := by
  by_cases hx : ∃ x : Site, x.Ready key ids s inspected chain
  · obtain ⟨x, hx⟩ := hx
    refine .last (Ends.installHook_ready hv hids hx) ?_ ?_
    · rintro e t ⟨-, ⟨-, rfl⟩ | ⟨u, hlooked, ⟨-, rfl⟩ | ⟨classifier, _, _, hfailed⟩⟩⟩
      · exact .refl
      · exact hlooked.steps hx.ports
      · obtain ⟨hdraw, htag, -⟩ := hx.steps hv hids hlooked classifier
        cases hfailed with
        | refused => exact hdraw
        | untagged => exact hdraw.tail (.addClassifier classifier)
        | unattached => exact hdraw.tail htag
    · rintro a t ⟨u, classifier, hlooked, -, rfl⟩
      obtain ⟨hdraw, -, hhook⟩ := hx.steps hv hids hlooked classifier
      exact hdraw.trans hhook
  · refine .last (Ends.installHook_unready hv.sound hx) ?_ fun _ _ h ↦ h.elim
    rintro e t ⟨-, rfl | ⟨l₁, port, l₂, hports, -, hlooked⟩⟩
    · exact .refl
    · exact hlooked.steps hports

end TrafficSteering
