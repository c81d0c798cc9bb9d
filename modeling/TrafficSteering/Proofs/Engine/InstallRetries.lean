import TrafficSteering.Proofs.Engine.HookRetries

namespace TrafficSteering

open Engine HookTag

variable {key : String} {ids : Nat → String} {faults : Faults} {s t u w : Service} {m : Memory}
  {inspected chain : Element} {hookId : String}

theorem ReadsAlike.trans {α : Type} {p : Program α} (h : ReadsAlike ids p s t)
    (h' : ReadsAlike ids p t u) : ReadsAlike ids p s u := by
  obtain ⟨r, hr⟩ := h
  obtain ⟨r', hr'⟩ := h'
  obtain ⟨rfl, -⟩ := (hr .never).2.unique (hr' .never).1
  exact ⟨r, fun faults ↦ ⟨(hr faults).1, (hr' faults).2⟩⟩

@[simp] theorem Service.count_memory (s : Service) (failures : List Failure) (kind : Kind) :
    (s.memory failures).count kind = (s.get kind).length := by
  rw [Memory.count, get_memory, Kind.written, List.length_map]

theorem Looked.flowClassifiers {l₁ l₂ : List Port} {port : Port} {found : Option String}
    (h : Looked key s l₁ l₂ port found t) : t.flowClassifiers = s.flowClassifiers := by
  cases h <;> rfl

/-- A hook can still be installed once a tag has been cleared, ids drawn or classifiers created. -/
theorem Site.Ready.again {x : Site} (hx : x.Ready key ids s inspected chain)
    (hlooked : Looked key s x.portsBefore x.portsAfter x.port none u) (hports : w.ports = u.ports)
    (hpairs : w.portPairs = u.portPairs) (hgroups : w.portPairGroups = u.portPairGroups)
    (hchains : w.portChains = u.portChains) :
    ∃ y : Site, y.Ready key ids w inspected chain := by
  obtain ⟨hsame, q, hq, hqid, htag, -⟩ := hlooked.port hx.ports
  obtain ⟨tree, htree, hspanned⟩ := hx.spanned
  have halike : ReadsAlike ids (Lookup.chainTree x.chain) u w := by
    refine .chainTree (fun id parentId ↦ ?_) hpairs hgroups x.chain
    rw [Inventory.find?_congr .port hports]
  obtain ⟨r, hr⟩ := (hlooked.chainTree ids hx.ports x.chain).trans halike
  obtain ⟨rfl, -⟩ := (htree .never).unique (hr .never).1
  have hkey : Kind.port.key q = Kind.port.key x.port := congrArg (Option.getD · "") hqid
  let y : Site := { x with port := q }
  have hready : y.Ready key ids w inspected chain :=
    { inspectedId := hkey ▸ hx.inspectedId
      chainId := hx.chainId
      ports := hports.trans hq
      chains := (hchains.trans hsame).trans hx.chains
      bare := fun hookId h ↦ absurd ((Option.mem_def.1 h).symm.trans htag) (Option.some_ne_none _)
      spanned := ⟨tree, fun faults ↦ (hr faults).2, hspanned⟩ }
  exact ⟨y, hready⟩

/-- An installation that nothing stands against or disturbs stores one classifier more. -/
theorem Site.Ready.installs {x : Site} (hx : x.Ready key ids s inspected chain) (hv : s.Valid ids)
    (hids : Function.Injective ids) :
    ∃ hookId m, calm ids (installHook key inspected chain) s = (.ok hookId, m) ∧
      m.count .flowClassifier = s.flowClassifiers.length + 1 := by
  have hends : Ends ids .never (installHook key inspected chain) s _ _ :=
    Ends.installHook_ready hv hids hx
  obtain ⟨t, ⟨e, -, hpossible, -⟩ | ⟨hookId, hrun, u, classifier, hlooked, -, rfl⟩⟩ :=
    hends.calm_cases
  · exact absurd hpossible Faults.not_possible_never
  · refine ⟨hookId, _, hrun, ?_⟩
    rw [Service.count_memory, ← hlooked.flowClassifiers]
    exact List.length_append

theorem Ends.installHook_present (hs : s.Sound ids) {l₁ l₂ : List Port} {port : Port}
    {m₁ m₂ : List PortChain} {c : PortChain}
    (hinspected : Guard.requireId inspected "Inspected port" = .ok (Kind.port.key port))
    (hchain : Guard.requireId chain "Inspection port" = .ok (Kind.portChain.key c))
    (hports : s.ports = l₁ ++ port :: l₂) (hchains : s.portChains = m₁ ++ c :: m₂)
    (htag : tag? key port = some hookId) (hstored : s.Stores .flowClassifier hookId) :
    Ends ids faults (installHook key inspected chain) s (fun _ t ↦ t = s) fun _ _ ↦ False := by
  have hportId := Guard.ne_of_requireText hinspected
  have hfindPort : s.find? .port (Kind.port.key port) = some port := hs.find?_of_split hports
  have hearly : faults.Possible → ∀ e : Error, e.isPartial = false → s = s := fun _ _ _ ↦ rfl
  rw [installHook, hinspected, hchain]
  refine pass (.lift _) hearly (pass (.lift _) hearly ?_)
  refine pass (.requireChain_stored hs hchains (Guard.ne_of_requireText hchain)) hearly ?_
  refine pass (.get_of_ne s .port hportId) hearly ?_
  rw [hfindPort]
  refine pass (.lift _) hearly ?_
  obtain ⟨r, u, hlook, ⟨-, ⟨e, rfl, -⟩, rfl⟩ | ⟨found, rfl, hlooked⟩⟩ :=
    Atomic.liveHook key hs hports hportId
  · exact halt (hlook _) fun _ ↦ rfl
  · cases hlooked with
    | live => exact pass (hlook _) hearly (fail rfl)
    | bare hnone => cases hnone.symm.trans htag
    | healed htag' _ hgone =>
      cases htag'.symm.trans htag
      exact absurd hstored hgone

theorem Site.Ready.failed {x : Site} (hx : x.Ready key ids s inspected chain) (hv : s.Valid ids)
    (hids : Function.Injective ids) {e : Error} (h : InstallFailed x key ids s e t) :
    e.isPartial = false ∧ t.flowClassifiers.length = s.flowClassifiers.length ∧
        (∃ y : Site, y.Ready key ids t inspected chain) ∨
      e.isPartial = true ∧ t.flowClassifiers.length = s.flowClassifiers.length + 1 ∧
        ((∃ y : Site, y.Ready key ids t inspected chain) ∨
          Ends ids .never (installHook key inspected chain) t (fun _ u ↦ u = t)
            fun _ _ ↦ False) := by
  obtain ⟨he, rfl⟩ | ⟨u, hlooked, ⟨he, rfl⟩ | ⟨classifier, tagStep, attachStep, hfailed⟩⟩ := h
  · exact .inl ⟨he, rfl, x, hx⟩
  · exact .inl ⟨he, by rw [hlooked.flowClassifiers], hx.again hlooked rfl rfl rfl rfl⟩
  cases hfailed with
  | refused he =>
    refine .inl ⟨he, ?_, hx.again hlooked rfl rfl rfl rfl⟩
    exact congrArg List.length hlooked.flowClassifiers
  | untagged e =>
    refine .inr ⟨rfl, ?_, .inl (hx.again hlooked rfl rfl rfl rfl)⟩
    rw [← hlooked.flowClassifiers]
    exact List.length_append
  | unattached e =>
    have hhooks : u.flowClassifiers.length + 1 = s.flowClassifiers.length + 1 := by
      rw [hlooked.flowClassifiers]
    refine .inr ⟨rfl, List.length_append.trans hhooks, .inr ?_⟩
    obtain ⟨-, htag, -⟩ := hx.steps hv hids hlooked classifier
    obtain ⟨hdraw, -, -⟩ := hx.steps hv hids hlooked classifier
    refine Ends.installHook_present ((hv.steps hids hdraw).step hids htag).sound ?_ hx.chainId rfl
      (((hlooked.port hx.ports).1).trans hx.chains) (tag?_retagged key x.port _) ?_
    · exact hx.inspectedId
    · exact ⟨_, List.mem_append_right _ List.mem_cons_self, rfl⟩

/-- An undisturbed installation comes to its end, with `k` classifiers more than there were in
`m`. -/
def Installs (key : String) (ids : Nat → String) (inspected chain : Element) (m n : Memory)
    (k : Nat) : Prop :=
  ∃ hookId n', (Request.installHook inspected chain).run key ids { n with failures := [] } =
      (.ok hookId, n') ∧
    n'.count .flowClassifier = m.count .flowClassifier + k

/-- After an attempt that has failed, a second one ends with one classifier more than there were
before the first just where the error is not a partial one, whether or not it advises to try again.
Where it is, either a second classifier is stored or the hook of the first stands against it. -/
theorem installHook_again (hids : Function.Injective ids) (hm : Reachable key ids m)
    {m' : Memory} (hcalm : (Request.installHook inspected chain).run key ids
      { m with failures := [] } = (.ok hookId, m'))
    {failures : List Failure} {e : Error} {n : Memory}
    (hrun : (Request.installHook inspected chain).run key ids { m with failures } = (.error e, n)) :
    (Installs key ids inspected chain m n 1 ↔ e.isPartial = false) ∧
    (e.isPartial = true → Installs key ids inspected chain m n 2 ∨
      n.count .flowClassifier = m.count .flowClassifier + 1 ∧
        ∃ e', (Request.installHook inspected chain).run key ids { n with failures := [] } =
          (.error e', { n with failures := [] })) := by
  obtain ⟨s, scheduled, rfl, hv, -⟩ := hm.service hids
  have hready : ∃ x : Site, x.Ready key ids s inspected chain := by
    by_contra hx
    have hends : Ends ids .never (installHook key inspected chain) s _ _ :=
      Ends.installHook_unready hv.sound hx
    obtain ⟨_, -, hfalse⟩ := hends.calm_ok hcalm
    exact hfalse
  obtain ⟨x, hx⟩ := hready
  obtain ⟨rest, t, hn, hsteps⟩ := (installHook_inSteps hv hids inspected chain).run failures
  obtain ⟨rest', t', -, ⟨e', hrun', -, hfailed⟩ | ⟨_, hrun', -⟩⟩ :=
    Ends.installHook_ready hv hids hx failures Faults.any_covers
  · cases hrun.symm.trans hrun'
    cases Service.memory_injective ((congrArg Prod.snd hrun').symm.trans hn)
    have hvt := hv.steps hids hsteps
    have hbefore : (s.memory scheduled).count .flowClassifier = s.flowClassifiers.length :=
      s.count_memory scheduled .flowClassifier
    have hafter : (t.memory rest').count .flowClassifier = t.flowClassifiers.length :=
      t.count_memory rest' .flowClassifier
    simp only [Installs, hbefore, hafter]
    -- no classifier was created; one was, without a tag; one was, and it is tagged
    obtain ⟨he, hlength, y, hy⟩ | ⟨he, hlength, ⟨y, hy⟩ | hpresent⟩ := hx.failed hv hids hfailed
    · obtain ⟨id, n, hagain, hcount⟩ := hy.installs hvt hids
      refine ⟨iff_of_true ⟨id, n, hagain, by rw [hcount, hlength]⟩ he, fun hpartial ↦ ?_⟩
      cases he.symm.trans hpartial
    · obtain ⟨id, n, hagain, hcount⟩ := hy.installs hvt hids
      rw [hlength] at hcount
      refine ⟨iff_of_false ?_ (by simp [he]), fun _ ↦ .inl ⟨id, n, hagain, hcount⟩⟩
      rintro ⟨id', n', hagain', hcount'⟩
      cases hagain.symm.trans hagain'
      omega
    · obtain ⟨u, ⟨e', hagain, rfl⟩ | ⟨_, -, hfalse⟩⟩ := hpresent.calm_cases
      · refine ⟨iff_of_false ?_ (by simp [he]), fun _ ↦ .inr ⟨hlength, e', hagain⟩⟩
        rintro ⟨id', n', hagain', -⟩
        cases hagain.symm.trans hagain'
      · exact hfalse.elim
  · cases hrun.symm.trans hrun'

def Sample.outages : List Failure := [{ kind := .portChain, operation := .update, status := none }]

theorem sample_unattached : Function.Injective numberedId ∧
    Reachable defaultKey numberedId Sample.memory ∧
    ∃ e n, (Request.installHook Sample.inspected Sample.chain).run defaultKey numberedId
        { Sample.memory with failures := Sample.outages } = (.error e, n) ∧
      e.isRetryable = true ∧
      ¬ Installs defaultKey numberedId Sample.inspected Sample.chain Sample.memory n 1 := by
  have hreachable : Reachable defaultKey numberedId Sample.memory :=
    ⟨"project", Sample.ports, Sample.events, by decide, rfl⟩
  have hcalm : (Request.installHook Sample.inspected Sample.chain).run defaultKey numberedId
      { Sample.memory with failures := [] } = (.ok (numberedId 5), ((Request.installHook
        Sample.inspected Sample.chain).run defaultKey numberedId Sample.memory).2) := rfl
  have hrun : (Request.installHook Sample.inspected Sample.chain).run defaultKey numberedId
      { Sample.memory with failures := Sample.outages } =
        (.error (.partialApply (attachStep (numberedId 5) (numberedId 3)) (.callFailure .update
            "Port Chain" none "injected Update Port Chain failure")),
          ((Request.installHook Sample.inspected Sample.chain).run defaultKey numberedId
            { Sample.memory with failures := Sample.outages }).2) := rfl
  refine ⟨numberedId_injective, hreachable, _, _, hrun, rfl, fun hagain ↦ ?_⟩
  have hpartial := (installHook_again numberedId_injective hreachable hcalm hrun).1.1 hagain
  cases hpartial

end TrafficSteering
