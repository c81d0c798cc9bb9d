import TrafficSteering.Engine.Hooks
import TrafficSteering.Proofs.Service.Exchanges

namespace TrafficSteering

open Engine

variable {known : (kind : Kind) → String → Prop} {b : Bool} {α β : Type} {p : Program α}
  {f : α → Program β}

/-- The program only reads. As long as nothing is changed, `P` tells what is known of its value. -/
def Reads (known : (kind : Kind) → String → Prop) (p : Program α) (b : Bool) (P : α → Prop) :
    Prop :=
  Acts known p b fun a c ↦ c = b ∧ (b = false → P a)

namespace Reads

variable {P P' : α → Prop} {R : β → Prop}

theorem done {a : α} (h : b = false → P a) : Reads known (pure a) b P := Acts.done ⟨rfl, h⟩

theorem fail {e : Error} (h : e.isPartial = false) : Reads known (.fail e : Program α) b P :=
  Acts.fail h

theorem mono (hp : Reads known p b P') (h : ∀ a, P' a → P a) : Reads known p b P :=
  Acts.mono hp fun a _ ha ↦ ⟨ha.1, fun hb ↦ h a (ha.2 hb)⟩

theorem bind (hp : Reads known p b P) (hf : ∀ a, (b = false → P a) → Reads known (f a) b R) :
    Reads known (p >>= f) b R := Acts.bind hp hf

theorem before {S : β → Bool → Prop} (hp : Reads known p b P)
    (hf : ∀ a, (b = false → P a) → Acts known (f a) b S) : Acts known (p >>= f) b S :=
  Acts.bind hp hf

theorem marks (hp : Reads known p false P) (hf : ∀ a, P a → Marks known (f a) false) :
    Marks known (p >>= f) false := by
  refine Marks.bind hp ?_
  intro a c h
  obtain ⟨rfl, ha⟩ := h
  exact hf a (ha rfl)

end Reads

namespace Guard

theorem requireText_plain {value : Option String} {name : String} {e : Error}
    (h : requireText value name = .error e) : e.isPartial = false := by
  unfold requireText at h
  split at h
  · split at h <;> cases h
    rfl
  · cases h
    rfl

theorem requireSome_plain {items : List α} {name : String} {e : Error}
    (h : requireSome items name = .error e) : e.isPartial = false := by
  unfold requireSome at h
  split at h <;> cases h
  rfl

theorem requireFound_plain {found : Option α} {kind id : String} {e : Error}
    (h : requireFound found kind id = .error e) : e.isPartial = false := by
  cases found <;> cases h
  rfl

theorem groupIds_plain {groups : List NetworkElement} {e : Error}
    (h : groupIds groups = .error e) : e.isPartial = false := by
  induction groups with
  | nil => cases h
  | cons g rest ih =>
    rw [groupIds, List.mapM_cons] at h
    cases hid : requireText g.elementId "Port Pair Group Id" with
    | error e' =>
      rw [hid] at h
      cases h
      exact requireText_plain hid
    | ok id =>
      rw [hid] at h
      cases hrest : groupIds rest with
      | error e' =>
        rw [groupIds] at hrest
        simp only [bind, Except.bind, hrest] at h
        cases h
        exact ih hrest
      | ok l =>
        rw [groupIds] at hrest
        simp only [bind, Except.bind, hrest] at h
        cases h

end Guard

namespace Reads

theorem requireText (value : Option String) (name : String) :
    Reads known (liftM (Guard.requireText value name)) b fun _ ↦ True :=
  Acts.mono (.lift fun _ h ↦ Guard.requireText_plain h) fun _ _ h ↦ ⟨h.1, fun _ ↦ trivial⟩

theorem requireSome (items : List α) (name : String) :
    Reads known (liftM (Guard.requireSome items name)) b fun _ ↦ True :=
  Acts.mono (.lift fun _ h ↦ Guard.requireSome_plain h) fun _ _ h ↦ ⟨h.1, fun _ ↦ trivial⟩

theorem groupIds (groups : List NetworkElement) :
    Reads known (liftM (Guard.groupIds groups)) b fun _ ↦ True :=
  Acts.mono (.lift fun _ h ↦ Guard.groupIds_plain h) fun _ _ h ↦ ⟨h.1, fun _ ↦ trivial⟩

theorem requireFound (found : Option α) (kind id : String) :
    Reads known (liftM (Guard.requireFound found kind id)) b fun a ↦ found = some a := by
  refine Acts.mono (.lift fun _ h ↦ Guard.requireFound_plain h) ?_
  intro a c h
  refine ⟨h.1, fun _ ↦ ?_⟩
  cases found <;> cases h.2
  rfl

theorem get (kind : Kind) (id : String) : Reads known (Gateway.get kind id) b fun found ↦
    ∀ r ∈ found, known kind id ∧ known kind (kind.key r) := Acts.get kind id

theorem list (kind : Kind) (query : Query) :
    Reads known (Gateway.list kind query) b fun l ↦ ∀ r ∈ l, known kind (kind.key r) :=
  Acts.list kind query

theorem first (kind : Kind) (query : Query) (test : kind.Resource → Bool) :
    Reads known (Gateway.list kind query >>= fun l ↦ pure (l.find? test)) b
      fun found ↦ ∀ r ∈ found, known kind (kind.key r) :=
  bind (list kind query) fun _ hl ↦ done fun hb r hr ↦ hl hb r (List.mem_of_find?_eq_some hr)

theorem pairByPorts (ingress egress : Option String) :
    Reads known (Lookup.pairByPorts ingress egress) b fun _ ↦ True :=
  (first .portPair [] _).mono fun _ _ ↦ trivial

theorem pairOf (port : InspectionPort) : Reads known (Lookup.pairOf port) b fun _ ↦ True := by
  have hnone : Reads known (pure none : Program (Option PortPair)) b fun _ ↦ True :=
    done fun _ ↦ trivial
  have hports : Reads known
      (if port.ingressId.isNone && port.egressId.isNone then pure none
       else Lookup.pairByPorts port.ingressId port.egressId) b fun _ ↦ True := by
    split
    · exact hnone
    · exact pairByPorts _ _
  unfold Lookup.pairOf
  cases port.elementId with
  | none => exact hports
  | some id =>
    dsimp only
    split
    · exact hports
    · refine bind (get .portPair id) fun found _ ↦ ?_
      cases found with
      | some pair => exact done fun _ ↦ trivial
      | none => exact hports

theorem groupOfPair (pairId : String) : Reads known (Lookup.groupOfPair pairId) b
    fun found ↦ ∀ g ∈ found, known .portPairGroup (g.id.getD "") := first .portPairGroup [] _

theorem chainOfClassifier (hookId : String) : Reads known (Lookup.chainOfClassifier hookId) b
    fun found ↦ ∀ c ∈ found, known .portChain (c.id.getD "") := first .portChain [] _

theorem requireGroups (groupIds : List String) :
    Reads known (Lookup.requireGroups groupIds) b fun _ ↦ True := by
  induction groupIds with
  | nil => exact done fun _ ↦ trivial
  | cons id rest ih =>
    refine bind (get .portPairGroup id) fun found _ ↦ ?_
    cases found with
    | none => exact fail rfl
    | some _ => exact ih

theorem validateGroups (groupIds : List String) (allowed : Option String) :
    Reads known (Lookup.validateGroups groupIds allowed) b fun _ ↦ True := by
  refine bind (requireGroups groupIds) fun _ _ ↦ bind (list .portChain []) fun chains _ ↦ ?_
  split
  · exact fail rfl
  · exact done fun _ ↦ trivial

theorem requireChain (chainId : String) : Reads known (requireChain chainId) b
    fun chain ↦ known .portChain chainId ∧ known .portChain (chain.id.getD "") :=
  bind (get .portChain chainId) fun _ hfound ↦ by
    refine Acts.mono (requireFound _ _ _) ?_
    intro chain c h
    exact ⟨h.1, fun hb ↦ hfound hb chain (h.2 hb)⟩

theorem taggedWith (key hookId : String) : Reads known (HookTag.taggedWith key hookId) b
    fun found ↦ ∀ p ∈ found, known .port (p.id.getD "") := first .port _ _

theorem taggedPort (key : String) (classifier : FlowClassifier) :
    Reads known (HookTag.taggedPort key classifier) b
      fun found ↦ ∀ p ∈ found, known .port (p.id.getD "") := by
  unfold HookTag.taggedPort
  split
  · exact done fun _ p hp ↦ absurd hp (Option.not_mem_none p)
  · split
    · exact taggedWith key _
    · refine bind (list .port _) fun ports hports ↦ ?_
      split
      · rename_i p hp
        refine done fun hb q hq ↦ ?_
        cases hq
        exact hports hb p (List.mem_of_find?_eq_some hp)
      · exact taggedWith key _

theorem endpoint (portId : Option String) (parentId : String) :
    Reads known (Lookup.endpoint portId parentId) b fun _ ↦ True := by
  cases portId with
  | none => exact done fun _ ↦ trivial
  | some id => exact bind (get .port id) fun _ _ ↦ done fun _ ↦ trivial

theorem inspectionPort (pair : PortPair) (groupId : Option String) :
    Reads known (Lookup.inspectionPort pair groupId) b fun _ ↦ True :=
  bind (endpoint pair.ingress _) fun _ _ ↦ bind (endpoint pair.egress _) fun _ _ ↦
    done fun _ ↦ trivial

theorem inspectionPorts (groupId : String) (pairIds : List String) :
    Reads known (Lookup.inspectionPorts groupId pairIds) b fun _ ↦ True := by
  induction pairIds with
  | nil => exact done fun _ ↦ trivial
  | cons id rest ih =>
    refine bind (get .portPair id) fun found _ ↦ ?_
    cases found with
    | none => exact ih
    | some pair =>
      exact bind (inspectionPort pair _) fun _ _ ↦ bind ih fun _ _ ↦ done fun _ ↦ trivial

theorem groups (chainId : String) (groupIds : List String) :
    Reads known (Lookup.groups chainId groupIds) b fun _ ↦ True := by
  induction groupIds with
  | nil => exact done fun _ ↦ trivial
  | cons id rest ih =>
    refine bind (get .portPairGroup id) fun found _ ↦ ?_
    cases found with
    | none => exact ih
    | some group =>
      exact bind (inspectionPorts id group.portPairs) fun _ _ ↦ bind ih fun _ _ ↦
        done fun _ ↦ trivial

theorem chainTree (chain : PortChain) :
    Reads known (Lookup.chainTree chain) b fun _ ↦ True :=
  bind (groups _ chain.portPairGroups) fun _ _ ↦ done fun _ ↦ trivial

end Reads

theorem Ends.look {ids : Nat → String} {faults : Faults} {s : Service} {r : Except Error α}
    {P : α → Prop} {E : Error → Service → Prop} {R : β → Service → Prop}
    (hp : ∀ faults, Atomic ids faults p s r s) (hreads : Reads (fun _ _ ↦ True) p false P)
    (hE : ∀ e, e.isPartial = false → E e s)
    (hok : ∀ a, r = .ok a → Ends ids faults (f a) s E R) : Ends ids faults (p >>= f) s E R := by
  refine step (hp faults) (fun _ ↦ hE) (fun e he ↦ hE e ?_) hok
  have hrun : (p.run (Memory.transport ids) (s.memory [])).1 = .error e :=
    (congrArg Prod.fst (hp .never).run_eq).trans he
  exact ((hreads [] rfl).of_run (Memory.transport ids) (s.memory []) hrun).1

namespace Acts

theorem setClassifiers {chain : PortChain}
    (hknown : b = false → known .portChain (chain.id.getD "")) (hookIds : List String) :
    Acts known (setClassifiers chain hookIds) b fun _ c ↦ c = true := update .portChain hknown _

theorem setTag {key : String} {port : Port} (hknown : b = false → known .port (port.id.getD ""))
    (hookId : Option String) : Acts known (HookTag.set key port hookId) b fun _ c ↦ c = true :=
  update .port hknown _

theorem clearVanished (key hookId : String) :
    Acts known (HookTag.clearVanished key hookId) b fun _ _ ↦ True := by
  refine Reads.before (.taggedWith key hookId) fun found hfound ↦ ?_
  cases found with
  | none => exact done trivial
  | some port => exact last (setTag (fun hb ↦ hfound hb port rfl) none) fun _ _ _ ↦ trivial

theorem detachFromChain (hookId : String) :
    Acts known (detachFromChain hookId) b fun detached c ↦ c = (b || detached) := by
  refine Reads.before (.chainOfClassifier hookId) fun found hfound ↦ ?_
  cases found with
  | none => exact done (Bool.or_false b).symm
  | some chain =>
    refine last (setClassifiers (fun hb ↦ hfound hb chain rfl) _) ?_
    intro _ c hc
    exact hc.trans (Bool.or_true b).symm

theorem leaveGroup {group : PortPairGroup}
    (hknown : b = false → known .portPairGroup (group.id.getD "")) (pairId : String) :
    Acts known (leaveGroup group pairId) b fun _ c ↦ c = true := by
  unfold Engine.leaveGroup
  dsimp only
  split
  · exact delete (by decide) _
  · exact last (update .portPairGroup hknown _) fun _ _ h ↦ h

end Acts

namespace Marks

theorem removeInspectionPort (port : InspectionPort) :
    Marks known (removeInspectionPort port) false := by
  refine Reads.marks (.pairOf port) fun found _ ↦ ?_
  cases found with
  | none => exact done ()
  | some pair =>
    refine Reads.marks (.groupOfPair _) fun group hgroup ↦ ?_
    cases group with
    | none => exact after (Acts.delete (by decide) _)
    | some group =>
      refine bind (Acts.leaveGroup (fun _ ↦ hgroup group rfl) _) ?_
      intro _ c hc
      rw [hc]
      exact after (Acts.delete (by decide) _)

theorem updateHook (key : String) (hook : InspectionHook) :
    Marks known (updateHook key hook) false := by
  refine Reads.marks (.requireText _ _) fun hookId _ ↦ ?_
  refine Reads.marks (.requireText _ _) fun inspectedId _ ↦ ?_
  refine Reads.marks (.requireText _ _) fun chainId _ ↦ ?_
  refine Reads.marks (.get .flowClassifier hookId) fun found _ ↦ ?_
  refine Reads.marks (.requireFound found _ _) fun classifier _ ↦ ?_
  refine Reads.marks (.taggedPort key classifier) fun port _ ↦ ?_
  dsimp only
  split
  · exact fail rfl
  · refine Reads.marks (.requireChain chainId) fun chain hchain ↦ ?_
    refine Reads.marks (.chainOfClassifier hookId) fun old hold ↦ ?_
    cases old with
    | none =>
      refine of_acts (P := fun _ _ ↦ True) (Acts.last (Acts.setClassifiers (fun _ ↦ hchain.2) _) ?_)
      exact fun _ _ _ ↦ trivial
    | some old =>
      dsimp only
      split
      · exact done ()
      · refine bind (Acts.setClassifiers (fun _ ↦ hold old rfl) _) ?_
        intro _ c hc
        rw [hc]
        exact bindAfter (Acts.setClassifiers nofun _) fun _ _ _ ↦ done ()

theorem removeHook (key hook : String) : Marks known (removeHook key hook) false := by
  refine Reads.marks (.requireText _ _) fun hookId _ ↦ ?_
  refine Reads.marks (.get .flowClassifier hookId) fun found _ ↦ ?_
  cases found with
  | none =>
    refine of_acts (P := fun _ _ ↦ True) (Acts.last (Acts.clearVanished key hookId) ?_)
    exact fun _ _ _ ↦ trivial
  | some classifier =>
    refine Reads.marks (.taggedPort key classifier) fun tagged _ ↦ ?_
    refine bind (Acts.detachFromChain hookId) ?_
    intro detached c hc
    rw [Bool.false_or] at hc
    rw [hc]
    refine bindAfter (Acts.delete (by decide) hookId) ?_
    intro _ c hc
    rw [hc]
    cases tagged with
    | none => exact done ()
    | some port => exact bindAfter (Acts.setTag nofun none) fun _ _ _ ↦ done ()

theorem registerChain (groups : List NetworkElement) :
    Marks known (registerChain groups) false := by
  refine Reads.marks (.requireSome groups _) fun _ _ ↦ ?_
  refine Reads.marks (.groupIds groups) fun groupIds _ ↦ ?_
  refine Reads.marks (.validateGroups groupIds none) fun _ _ ↦ ?_
  exact bind (Acts.create .portChain _) fun _ _ _ _ _ ↦ trivial

theorem updateChain (chain : Element) (groups : List NetworkElement) :
    Marks known (updateChain chain groups) false := by
  refine Reads.marks (.requireText _ _) fun chainId _ ↦ ?_
  refine Reads.marks (.requireSome groups _) fun _ _ ↦ ?_
  refine Reads.marks (.groupIds groups) fun groupIds _ ↦ ?_
  refine Reads.marks (.requireChain chainId) fun stored hstored ↦ ?_
  refine Reads.marks (.validateGroups groupIds _) fun _ _ ↦ ?_
  refine bind (Acts.update .portChain (fun _ ↦ hstored.1) _) ?_
  intro cleared c hc
  rw [hc]
  exact bindAfter (Acts.update .portChain nofun _) fun _ _ _ _ _ ↦ trivial

theorem deleteChain (chain : Element) : Marks known (deleteChain chain) false := by
  refine Reads.marks (.requireText _ _) fun chainId _ ↦ ?_
  refine Reads.marks (.requireChain chainId) fun _ _ ↦ ?_
  refine bind (Acts.deleteRaw .portChain chainId) ?_
  intro response c hc
  have hc : c = response.isSuccess := by simpa using hc
  rw [hc]
  split
  · exact fun _ _ ↦ trivial
  · rename_i hfailed
    have hfailed : response.isSuccess = false := by simpa using hfailed
    rw [hfailed]
    exact fail rfl

end Marks

end TrafficSteering
