import TrafficSteering.Proofs.Engine.Retries

namespace TrafficSteering

open Engine HookTag

variable {key : String} {ids : Nat → String} {faults faults' : Faults} {s t u : Service}
  {m : Memory} {hookId : String}

theorem Detached.unique {b c : Bool} (h : Detached hookId s b t) (h' : Detached hookId s c u)
    (hs : s.Sound ids) (ha : s.Attached) : t = u := by
  cases h with
  | unlisted hfree =>
    cases h' with
    | unlisted => rfl
    | listed hsplit hlisted => exact absurd hlisted (hfree _ (by simp [hsplit]))
  | @listed l₁ l₂ c hsplit hlisted =>
    cases h' with
    | unlisted hfree => exact absurd hlisted (hfree _ (by simp [hsplit]))
    | @listed l₁' l₂' c' hsplit' hlisted' =>
      cases ha.eq_of_listed (by simp [hsplit]) (by simp [hsplit']) hlisted hlisted'
      have hget : s.get .portChain = l₁ ++ c :: l₂ := hsplit
      obtain ⟨rfl, -, rfl⟩ := hs.split_unique hget hsplit' rfl
      rfl

theorem Detached.of_free {b : Bool} (h : Detached hookId s b t)
    (hfree : s.Free hookId .flowClassifier) : t = s := by
  cases h with
  | unlisted => rfl
  | listed hsplit hlisted => exact absurd hlisted (hfree _ (by simp [hsplit]))

theorem Deleted.unique {kind : Kind} {id : String} (h : Deleted faults kind id s t)
    (h' : Deleted faults' kind id s u) (hs : s.Sound ids) (hfeigns : ¬ faults.Feigns kind)
    (hfeigns' : ¬ faults'.Feigns kind) : t = u := by
  cases hfind : s.find? kind id with
  | some r =>
    obtain ⟨l₁, r, l₂, hsplit, hkey, -, rfl⟩ := h.of_stored hfind hfeigns
    obtain ⟨l₁', r', l₂', hsplit', hkey', -, rfl⟩ := h'.of_stored hfind hfeigns'
    obtain ⟨rfl, -, rfl⟩ := hs.split_unique hsplit hsplit' (hkey'.trans hkey.symm)
    rfl
  | none =>
    have hstays {faults : Faults} {t : Service} (h : Deleted faults kind id s t) : t = s := by
      obtain ⟨rfl, -⟩ | ⟨l₁, r, l₂, hsplit, rfl, -⟩ := h
      · rfl
      · cases (hs.find?_of_split hsplit).symm.trans hfind
    rw [hstays h, hstays h']

theorem Cleared.unique (h : Cleared key hookId s t) (h' : Cleared key hookId s u)
    (hs : s.Sound ids) (ht : s.Tagged key ids) : t = u := by
  cases h with
  | bare hnone =>
    cases h' with
    | bare => rfl
    | tagged hsplit htag => exact absurd htag (hnone _ (by simp [hsplit]))
  | @tagged l₁ l₂ p hsplit htag =>
    cases h' with
    | bare hnone => exact absurd htag (hnone _ (by simp [hsplit]))
    | @tagged l₁' l₂' p' hsplit' htag' =>
      have hp : p' = p := ht.eq_of_tag (by simp [hsplit']) (by simp [hsplit]) htag' htag
      subst hp
      have hget : s.get .port = l₁ ++ p' :: l₂ := hsplit
      obtain ⟨rfl, -, rfl⟩ := hs.split_unique hget hsplit' rfl
      rfl

section

variable {hook : InspectionHook} {chainId : String} {chain : PortChain}

theorem Movable.detached (h : Movable key s hook hookId chainId chain) (hs : s.Sound ids)
    (hu : Detached hookId s true u) (hnot : hookId ∉ chain.flowClassifiers) :
    Movable key u hook hookId chainId chain := by
  obtain ⟨classifier, inspectedId, hclassifier, hinspected, hport⟩ := h.located
  refine ⟨h.named, h.chained, ⟨classifier, inspectedId, ?_, hinspected, ?_⟩, ?_⟩
  · rw [hu.find?_eq, hclassifier]
  · rw [Inventory.taggedPort_congr hu.frame.1, hport]
  · obtain ⟨rfl, m₁, m₂, hchains⟩ := Inventory.find?_eq_some h.found
    refine (hu.sound hs).find?_of_mem .portChain ?_
    have hchains : s.portChains = m₁ ++ chain :: m₂ := hchains
    cases hu with
    | @listed l₁ l₂ c hsplit hlisted =>
      have hmem : chain ∈ l₁ ++ c :: l₂ := by simp [← hsplit, hchains]
      have hne : chain ≠ c := by
        rintro rfl
        exact hnot hlisted
      rw [Service.get_put_self]
      grind

theorem Moved.unique (h : Moved hookId s chain t) (hu : Detached hookId s true u) {w : Service}
    (hw : Moved hookId u chain w) (hs : s.Sound ids) (ha : s.Attached)
    (hnot : hookId ∉ chain.flowClassifiers) : w = t := by
  cases h with
  | stays hlisted => exact absurd hlisted hnot
  | moved _ hv hsplit =>
    cases hw with
    | stays hlisted => exact absurd hlisted hnot
    | moved _ hv' hsplit' =>
      cases hv.unique hu hs ha
      cases hv'.of_free (hu.free ha)
      have hget : u.get .portChain = _ ++ chain :: _ := hsplit
      obtain ⟨rfl, -, rfl⟩ := (hu.sound hs).split_unique hget hsplit' rfl
      rfl

theorem Resumes.updateHook (hs : s.Sound ids) (ha : s.Attached)
    (hcalm : calm ids (updateHook key hook) s = (.ok (), m)) :
    Resumes ids (updateHook key hook) s () m := by
  by_cases h : ∃ hookId chainId chain, Movable key s hook hookId chainId chain
  · obtain ⟨hookId, chainId, chain, h⟩ := h
    have hends : Ends ids .honest _ s _ _ := Ends.updateHook_movable hs ha h
    obtain ⟨t, rfl, ht⟩ := hends.calm_ok hcalm
    refine hends.mono ?_ fun _ _ _ ↦ trivial
    rintro e u (⟨rfl, -⟩ | ⟨-, hu, hnot⟩)
    · exact hcalm
    · have hagain : Ends ids .never _ u _ _ :=
        Ends.updateHook_movable (hu.sound hs) (ha.detached hu) (h.detached hs hu hnot)
      obtain ⟨w, ⟨e, -, ⟨-, hpossible | ⟨c, hc, hlisted, -⟩⟩ | ⟨hpossible, -⟩⟩ | ⟨_, hrun, hw⟩⟩ :=
        hagain.calm_cases
      · exact absurd hpossible Faults.not_possible_never
      · exact absurd hlisted (hu.free ha c hc)
      · exact absurd hpossible Faults.not_possible_never
      · rw [hrun, ht.unique hu hw hs ha hnot]
  · exact (Ends.updateHook_unmovable h).mono (fun _ _ h ↦ h ▸ hcalm) fun _ _ _ ↦ trivial

end

section

variable {hook : String} {classifier : FlowClassifier} {b : Bool} {w : Service}

theorem removeHook_done (hs : s.Sound ids) (ha : s.Attached)
    (hid : Guard.requireText (some hook) "Inspection Hook Id" = .ok hookId)
    (hstored : s.find? .flowClassifier hookId = some classifier) (hu : Detached hookId s b u)
    (hw : Deleted faults .flowClassifier hookId u w) (hfeigns : ¬ faults.Feigns .flowClassifier)
    (hcalm : calm ids (removeHook key hook) s = (.ok (), m)) :
    ∃ t, m = t.memory [] ∧ Cleared key hookId w t := by
  have hends : Ends ids .never (removeHook key hook) s _ _ :=
    Ends.removeHook_stored hs ha hid hstored
  obtain ⟨t, hm, c, u', w', hu', hw', ht⟩ := hends.calm_ok hcalm
  cases hu'.unique hu hs ha
  cases hw'.unique hw (hu.sound hs) (Faults.not_feigns_never _) hfeigns
  exact ⟨t, hm, ht⟩

theorem removeHook_detached (hs : s.Sound ids) (hids : Function.Injective ids) (ha : s.Attached)
    (ht : s.Tagged key ids)
    (hid : Guard.requireText (some hook) "Inspection Hook Id" = .ok hookId)
    (hstored : s.find? .flowClassifier hookId = some classifier) (hu : Detached hookId s b u)
    (hcalm : calm ids (removeHook key hook) s = (.ok (), m)) :
    calm ids (removeHook key hook) u = (.ok (), m) := by
  have hfound : u.find? .flowClassifier hookId = some classifier :=
    (hu.find?_eq hookId).trans hstored
  have hagain : Ends ids .never (removeHook key hook) u _ _ :=
    Ends.removeHook_stored (hu.sound hs) (ha.detached hu) hid hfound
  have htu : u.Tagged key ids := ht.steps hids hu.chainSteps.steps
  obtain ⟨t, ⟨e, -, ⟨-, hpossible | hstuck⟩ | ⟨_, _, -, ⟨hpossible, -⟩ | ⟨-, hpossible | hnamed⟩⟩⟩ |
    ⟨_, hrun, c, v, w, hv, hw, hcleared⟩⟩ := hagain.calm_cases
  · exact absurd hpossible Faults.not_possible_never
  · obtain ⟨c, hc, hlisted, -⟩ := hstuck
    exact absurd hlisted (hu.free ha c hc)
  · exact absurd hpossible Faults.not_possible_never
  · exact absurd hpossible Faults.not_possible_never
  · exact absurd htu.named hnamed
  · cases hv.of_free (hu.free ha)
    obtain ⟨t', rfl, hcleared'⟩ :=
      removeHook_done hs ha hid hstored hu hw (Faults.not_feigns_never _) hcalm
    have htw : w.Tagged key ids := htu.steps hids hw.classifierSteps
    rw [hrun, hcleared.unique hcleared' (hw.sound (hu.sound hs)) htw]

theorem removeHook_deleted (hs : s.Sound ids) (hids : Function.Injective ids) (ha : s.Attached)
    (ht : s.Tagged key ids)
    (hid : Guard.requireText (some hook) "Inspection Hook Id" = .ok hookId)
    (hstored : s.find? .flowClassifier hookId = some classifier) (hu : Detached hookId s b u)
    (hw : Deleted faults .flowClassifier hookId u w) (hfeigns : ¬ faults.Feigns .flowClassifier)
    (hcalm : calm ids (removeHook key hook) s = (.ok (), m)) :
    calm ids (removeHook key hook) w = (.ok (), m) := by
  have hsu := hu.sound hs
  have hfound : u.find? .flowClassifier hookId = some classifier :=
    (hu.find?_eq hookId).trans hstored
  have hgone : w.find? .flowClassifier hookId = none := by
    obtain ⟨l₁, c, l₂, hsplit, rfl, -, rfl⟩ := hw.of_stored hfound hfeigns
    rw [(hsu.remove hsplit).find?_eq_none_iff, hsu.stores_remove_iff .flowClassifier hsplit]
    exact fun h ↦ h.2 rfl
  have htw : w.Tagged key ids :=
    (ht.steps hids hu.chainSteps.steps).steps hids hw.classifierSteps
  have hagain : Ends ids .never (removeHook key hook) w _ _ :=
    Ends.removeHook_gone (hw.sound hsu) hid hgone
  obtain ⟨t, ⟨e, -, -, hpossible | hnamed⟩ | ⟨_, hrun, hcleared⟩⟩ := hagain.calm_cases
  · exact absurd hpossible Faults.not_possible_never
  · exact absurd htw.named hnamed
  · obtain ⟨t', rfl, hcleared'⟩ := removeHook_done hs ha hid hstored hu hw hfeigns hcalm
    rw [hrun, hcleared.unique hcleared' (hw.sound hsu) htw]

theorem Resumes.removeHook (hs : s.Sound ids) (hids : Function.Injective ids) (ha : s.Attached)
    (ht : s.Tagged key ids) (hcalm : calm ids (removeHook key hook) s = (.ok (), m)) :
    Resumes ids (removeHook key hook) s () m := by
  obtain ⟨hookId, hid, -⟩ := Atomic.calm_bind (.lift _) hcalm
  cases hfind : s.find? .flowClassifier hookId with
  | none =>
    exact (Ends.removeHook_gone hs hid hfind).mono (fun _ _ h ↦ h.1 ▸ hcalm) fun _ _ _ ↦ trivial
  | some classifier =>
    refine (Ends.removeHook_stored hs ha hid hfind).mono ?_ fun _ _ _ ↦ trivial
    rintro e t (⟨rfl, -⟩ | ⟨b, u, hu, ⟨-, rfl⟩ | ⟨hw, -⟩⟩)
    · exact hcalm
    · exact removeHook_detached hs hids ha ht hid hfind hu hcalm
    · exact removeHook_deleted hs hids ha ht hid hfind hu hw (Faults.not_feigns_honest _) hcalm

end

namespace Engine.Request

def Restartable : Request → Prop
  | registerInspectionPort _ | removeInspectionPort _ | updateHook _ | removeHook _
  | registerChain _ | updateChain _ _ | deleteChain _ => True
  | getInspectionPort _ | installHook _ _ | getHook _ | getChain _ => False

theorem resumes (hv : s.Valid ids) (hids : Function.Injective ids) (ht : s.Tagged key ids)
    {r : Request} (hr : r.Restartable) {a : r.Value}
    (hcalm : calm ids (r.program key) s = (.ok a, m)) : Resumes ids (r.program key) s a m := by
  cases r with
  | registerInspectionPort port => exact .registerInspectionPort hv.sound hids hcalm
  | removeInspectionPort port => exact .removeInspectionPort hv.sound hv.linked hcalm
  | updateHook hook => exact .updateHook hv.sound hv.attached hcalm
  | removeHook hook => exact .removeHook hv.sound hids hv.attached ht hcalm
  | registerChain groups => exact .registerChain hv.sound hids hcalm
  | updateChain chain groups => exact .updateChain hv.sound hcalm
  | deleteChain chain => exact .deleteChain hv.sound hcalm
  | getInspectionPort | installHook | getHook | getChain => exact hr.elim

/-- The memory after some attempts at a request, all of which have failed; before each of them any
failures may be scheduled, but for deletes that are answered as if the resource were gone. -/
inductive Failing (key : String) (ids : Nat → String) (r : Request) (m : Memory) : Memory → Prop
  | start : Failing key ids r m m
  | again {n n' : Memory} {failures : List Failure} {e : Error} (h : Failing key ids r m n)
      (hhonest : Faults.honest.Covers failures)
      (hrun : r.run key ids { n with failures } = (.error e, n')) : Failing key ids r m n'

theorem resumes_after (hv : s.Valid ids) (hids : Function.Injective ids) (ht : s.Tagged key ids)
    {r : Request} (hr : r.Restartable) {a : r.Value}
    (hcalm : calm ids (r.program key) s = (.ok a, m)) {failures : List Failure}
    (hhonest : Faults.honest.Covers failures) {e : Error} {n : Memory}
    (hrun : r.run key ids (s.memory failures) = (.error e, n)) :
    ∃ (t : Service) (rest : List Failure), n = t.memory rest ∧ t.Valid ids ∧ t.Tagged key ids ∧
      calm ids (r.program key) t = (.ok a, m) := by
  obtain ⟨rest, t, hn, hsteps⟩ := (r.inSteps key hv hids).run failures
  obtain ⟨rest', t', -, ⟨e', hrun', hagain⟩ | ⟨a', hrun', -⟩⟩ :=
    resumes hv hids ht hr hcalm failures hhonest
  · cases hrun.symm.trans hrun'
    cases Service.memory_injective ((congrArg Prod.snd hrun').symm.trans hn)
    exact ⟨_, rest', rfl, hv.steps hids hsteps, ht.steps hids hsteps, hagain⟩
  · cases hrun.symm.trans hrun'

/-- However many attempts have failed, and wherever they have stopped, one more that nothing
disturbs has the same outcome and leaves the same memory as if they had not been made. -/
theorem run_after_failing (hids : Function.Injective ids) (hm : Reachable key ids m) {r : Request}
    (hr : r.Restartable) {a : r.Value} {m' : Memory}
    (hcalm : r.run key ids { m with failures := [] } = (.ok a, m')) {n : Memory}
    (hn : Failing key ids r m n) : r.run key ids { n with failures := [] } = (.ok a, m') := by
  obtain ⟨s, failures, rfl, hv, ht⟩ := hm.service hids
  have hinvariant : ∃ (t : Service) (rest : List Failure), n = t.memory rest ∧ t.Valid ids ∧
      t.Tagged key ids ∧ calm ids (r.program key) t = (.ok a, m') := by
    induction hn with
    | start => exact ⟨s, failures, rfl, hv, ht, hcalm⟩
    | again h hhonest hrun ih =>
      obtain ⟨t, rest, rfl, hvt, htt, hcalm⟩ := ih
      exact resumes_after hvt hids htt hr hcalm hhonest hrun
  obtain ⟨t, rest, rfl, -, -, hcalm⟩ := hinvariant
  exact hcalm

end Engine.Request

namespace Sample

abbrev register : Request := .registerInspectionPort span

def refusals : List Failure :=
  [{ kind := .portPairGroup, operation := .create, status := some 503 }]

def halfway : Memory :=
  (register.run defaultKey numberedId { seeded numberedId "project" ports with
    failures := refusals }).2

end Sample

theorem sample_registered :
    Function.Injective numberedId ∧ Request.Restartable Sample.register ∧
      Reachable defaultKey numberedId (seeded numberedId "project" Sample.ports) ∧
      Request.Failing defaultKey numberedId Sample.register
        (seeded numberedId "project" Sample.ports) Sample.halfway ∧
      Sample.halfway.count .portPair = 1 ∧
      ∃ a m, Sample.register.run defaultKey numberedId (seeded numberedId "project" Sample.ports) =
          (.ok a, m) ∧
        Sample.register.run defaultKey numberedId { Sample.halfway with failures := [] } =
          (.ok a, m) := by
  have hreachable : Reachable defaultKey numberedId (seeded numberedId "project" Sample.ports) :=
    ⟨"project", Sample.ports, [], by decide, rfl⟩
  have hhonest : Faults.honest.Covers Sample.refusals := by
    simp [Faults.Covers, Faults.honest, Sample.refusals]
  have hfailing : Request.Failing defaultKey numberedId Sample.register
      (seeded numberedId "project" Sample.ports) Sample.halfway := by
    exact .again .start hhonest (e := .partialApply
      ("attach Port Pair " ++ numberedId 1 ++ " to a Port Pair Group")
      (.callFailure .create "Port Pair Group" (some 503) "injected Create Port Pair Group failure"))
      rfl
  let registered : InspectionPort :=
    { Sample.span with elementId := some (numberedId 1), parentId := some (numberedId 2) }
  have hcalm : Sample.register.run defaultKey numberedId
      { seeded numberedId "project" Sample.ports with failures := [] } = (.ok registered,
        (Sample.register.run defaultKey numberedId (seeded numberedId "project" Sample.ports)).2) :=
    rfl
  have hrestartable : Sample.register.Restartable := trivial
  exact ⟨numberedId_injective, hrestartable, hreachable, hfailing, rfl, registered, _, hcalm,
    Request.run_after_failing numberedId_injective hreachable hrestartable hcalm hfailing⟩

end TrafficSteering
