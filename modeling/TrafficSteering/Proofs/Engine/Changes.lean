import TrafficSteering.Proofs.Engine.Lookups

namespace TrafficSteering

open Engine HookTag

variable {key : String} {ids : Nat → String} {faults : Faults} {s t : Service}

theorem Service.fetch_eq_ok {kind : Kind} {id : String} {found : Option kind.Resource} :
    s.fetch kind id = .ok found ↔ id ≠ "" ∧ s.find? kind id = found := by
  by_cases h : id = "" <;> simp [fetch, h]

theorem Guard.requireFound_eq_ok {α : Type} {found : Option α} {kind id : String} {a : α} :
    requireFound found kind id = .ok a ↔ found = some a := by
  cases found <;> simp [requireFound]

theorem Atomic.requireChain (ids : Nat → String) (s : Service) (chainId : String) :
    ∃ r, (∀ faults, Atomic ids faults (requireChain chainId) s r s) ∧
      ∀ c, r = .ok c ↔ chainId ≠ "" ∧ s.find? .portChain chainId = some c := by
  have hget (faults : Faults) : Atomic ids faults (Gateway.get .portChain chainId) s _ s :=
    get s .portChain chainId
  cases hfetch : s.fetch .portChain chainId with
  | error e =>
    rw [hfetch] at hget
    refine ⟨.error e, fun faults ↦ stop (hget faults), fun c ↦ ⟨nofun, fun ⟨hid, _⟩ ↦ ?_⟩⟩
    rw [Service.fetch_of_ne hid] at hfetch
    cases hfetch
  | ok found =>
    rw [hfetch] at hget
    obtain ⟨hid, hfind⟩ := Service.fetch_eq_ok.1 hfetch
    refine ⟨_, fun faults ↦ bind (hget faults) (lift _), fun c ↦ ?_⟩
    rw [Guard.requireFound_eq_ok, hfind]
    exact ⟨fun h ↦ ⟨hid, h⟩, fun h ↦ h.2⟩

theorem Atomic.requireChain_stored (hs : s.Sound ids) {l₁ l₂ : List PortChain} {c : PortChain}
    (h : s.portChains = l₁ ++ c :: l₂) (hid : Kind.portChain.key c ≠ "") :
    Atomic ids faults (Engine.requireChain (Kind.portChain.key c)) s (.ok c) s := by
  obtain ⟨r, hr, hok⟩ := requireChain ids s (Kind.portChain.key c)
  have hr := hr faults
  rwa [(hok c).2 ⟨hid, hs.find?_of_split h⟩] at hr

def Inventory.requestedGroup (v : Inventory) (port : InspectionPort) :
    Except Error (Option PortPairGroup) :=
  match port.parentId with
  | none => .ok none
  | some id =>
    if id = "" then .ok none
    else
      match v.find? .portPairGroup id with
      | none => .error (.notFound "Port Pair Group" id)
      | some g => .ok (some g)

theorem Atomic.requestedGroup (s : Service) (port : InspectionPort) :
    Atomic ids faults (requestedGroup port) s (s.requestedGroup port) s := by
  rw [Engine.requestedGroup, Inventory.requestedGroup]
  cases port.parentId with
  | none => exact done
  | some id =>
    by_cases hid : id = ""
    · simp only [if_pos hid]
      exact done
    · simp only [if_neg hid]
      refine bind (get_of_ne s .portPairGroup hid) ?_
      cases s.find? .portPairGroup id with
      | none => exact stop fail
      | some g => exact bind (a := g) done done

theorem Atomic.findOrCreatePair (hs : s.Sound ids) (hids : Function.Injective ids)
    (ingress egress : String) :
    Atomic ids faults (findOrCreatePair ingress egress) s
      (.ok (match s.pairByPorts (some ingress) (some egress) with
        | some pair => (pair, false)
        | none => (s.issue ids .portPair (newPair ingress egress), true)))
      (match s.pairByPorts (some ingress) (some egress) with
        | some _ => s
        | none => s.add ids .portPair (newPair ingress egress)) := by
  refine bind (pairByPorts s _ _) ?_
  cases s.pairByPorts (some ingress) (some egress) with
  | some pair => exact done
  | none => exact last (create hs hids .portPair (by decide) _)

theorem Ends.joinGroup (hs : s.Sound ids) {l₁ l₂ : List PortPairGroup} {g : PortPairGroup}
    (h : s.portPairGroups = l₁ ++ g :: l₂) (pairId : String) :
    Ends ids faults (placePair (some g) pairId) s (Refused faults (Kind.portPairGroup.key g) s)
      fun a t ↦ a = { g with portPairs := g.portPairs ++ [pairId] } ∧
        t = s.put .portPairGroup
          (l₁ ++ { g with portPairs := g.portPairs ++ [pairId] } :: l₂) := by
  rw [← Kind.amended_portPairs g]
  exact update hs .portPairGroup h _

theorem Ends.leaveGroup (hs : s.Sound ids) {l₁ l₂ : List PortPairGroup} {g : PortPairGroup}
    (h : s.portPairGroups = l₁ ++ g :: l₂) {pairId : String} :
    Ends ids faults (leaveGroup g pairId) s
      (fun e t ↦ t = s ∧ e.isPartial = false)
      fun _ t ↦
        if g.portPairs.filter (· ≠ pairId) = [] then
          Deleted faults .portPairGroup (Kind.portPairGroup.key g) s t
        else t = s.put .portPairGroup
          (l₁ ++ { g with portPairs := g.portPairs.filter (· ≠ pairId) } :: l₂) := by
  rw [Engine.leaveGroup]
  by_cases hlast : g.portPairs.filter (· ≠ pairId) = []
  · simp only [hlast, List.isEmpty_nil, if_true]
    exact (delete hs .portPairGroup _).mono (fun e t h ↦ ⟨h.1, h.2.1⟩) (fun _ t h ↦ h)
  · have hsome : (g.portPairs.filter (· ≠ pairId)).isEmpty = false := by simpa using hlast
    have hupdate : Ends ids faults _ s _ _ := update hs .portPairGroup h
      { g with portPairs := g.portPairs.filter (· ≠ pairId) }
    rw [Kind.amended_portPairs] at hupdate
    simp only [hsome, hlast, if_false]
    exact bind hupdate (fun e t h ↦ ⟨h.1, h.2.1⟩) fun _ t h ↦ done h.2

theorem Ends.setGroups (hs : s.Sound ids) {l₁ l₂ : List PortChain} {c : PortChain}
    (h : s.portChains = l₁ ++ c :: l₂) (groupIds : List String) :
    Ends ids faults (Gateway.update .portChain (Kind.portChain.key c)
        { c with portPairGroups := groupIds }) s (Refused faults (Kind.portChain.key c) s)
      fun a t ↦ a = { c with portPairGroups := groupIds } ∧
        t = s.put .portChain (l₁ ++ { c with portPairGroups := groupIds } :: l₂) := by
  have hupdate : Ends ids faults _ s _ _ :=
    update hs .portChain h { c with portPairGroups := groupIds }
  rwa [Kind.amended_portPairGroups] at hupdate

theorem Ends.setClassifiers (hs : s.Sound ids) {l₁ l₂ : List PortChain} {c : PortChain}
    (h : s.portChains = l₁ ++ c :: l₂) (hookIds : List String) :
    Ends ids faults (setClassifiers c hookIds) s (Refused faults (Kind.portChain.key c) s)
      fun a t ↦ a = { c with flowClassifiers := hookIds } ∧
        t = s.put .portChain (l₁ ++ { c with flowClassifiers := hookIds } :: l₂) := by
  rw [← Kind.amended_flowClassifiers c]
  exact update hs .portChain h _

theorem Atomic.setClassifiers (hs : s.Sound ids) {l₁ l₂ : List PortChain} {c : PortChain}
    (h : s.portChains = l₁ ++ c :: l₂) (hid : Kind.portChain.key c ≠ "") (hookIds : List String) :
    Atomic ids faults (setClassifiers c hookIds) s (.ok { c with flowClassifiers := hookIds })
      (s.put .portChain (l₁ ++ { c with flowClassifiers := hookIds } :: l₂)) := by
  rw [← Kind.amended_flowClassifiers c]
  exact update hs .portChain h hid _

theorem attachClassifier_eq {c : PortChain} {hookId : String} (h : hookId ∉ c.flowClassifiers) :
    attachClassifier c hookId = setClassifiers c (c.flowClassifiers ++ [hookId]) := by
  rw [attachClassifier, if_neg (by simpa using h)]

/-- What becomes of the chain that lists a classifier, and whether there is one. -/
inductive Detached (hookId : String) (s : Service) : Bool → Service → Prop
  | unlisted (hfree : s.Free hookId .flowClassifier) : Detached hookId s false s
  | listed {l₁ l₂ : List PortChain} {c : PortChain} (h : s.portChains = l₁ ++ c :: l₂)
      (hlisted : hookId ∈ c.flowClassifiers) :
      Detached hookId s true (s.put .portChain
        (l₁ ++ { c with flowClassifiers := c.flowClassifiers.filter (· ≠ hookId) } :: l₂))

/-- A chain that lists a classifier has no id to be called by. -/
def Inventory.Stuck (v : Inventory) (hookId : String) : Prop :=
  ∃ c ∈ v.portChains, hookId ∈ c.flowClassifiers ∧ Kind.portChain.key c = ""

theorem Ends.detachFromChain (hs : s.Sound ids) (hookId : String) :
    Ends ids faults (detachFromChain hookId) s
      (fun _ t ↦ t = s ∧ (faults.Possible ∨ s.Stuck hookId))
      fun b t ↦ Detached hookId s b t := by
  refine Ends.pass (.chainOfClassifier s hookId) (fun hpossible _ _ ↦ ⟨rfl, .inl hpossible⟩) ?_
  cases hfind : s.chainOfClassifier hookId with
  | none => exact done (.unlisted (Inventory.chainOfClassifier_eq_none.1 hfind))
  | some c =>
    obtain ⟨hc, hlisted⟩ := Inventory.chainOfClassifier_eq_some hfind
    obtain ⟨l₁, l₂, hsplit⟩ := List.append_of_mem hc
    refine bind (setClassifiers hs hsplit _)
      (fun e t h ↦ ⟨h.1, h.2.2.imp_right fun hblank ↦ ⟨c, hc, hlisted, hblank⟩⟩) ?_
    rintro _ t ⟨-, rfl⟩
    exact done (.listed hsplit hlisted)

/-- The tag of a port is set by what was last read of the port, which may have been retagged
since. -/
theorem setTag_eq {port q : Port} {hookId : Option String}
    (hsame : retagged key q hookId = retagged key port hookId) :
    HookTag.set key port hookId = Gateway.update .port (Kind.port.key q)
      { profile := some (retag key (q.profile.getD Dict.empty) hookId) } := by
  obtain ⟨hids, -, -, -, -, -, -, -, -, -, hprofiles⟩ := Port.mk.inj hsame
  have hid : Kind.port.key q = port.id.getD "" := congrArg (Option.getD · "") hids
  rw [HookTag.set, hid, ← Option.some.inj hprofiles]

theorem Atomic.setTag (hs : s.Sound ids) {l₁ l₂ : List Port} {port q : Port}
    (h : s.ports = l₁ ++ q :: l₂) (hid : Kind.port.key q ≠ "") (hookId : Option String)
    (hsame : retagged key q hookId = retagged key port hookId) :
    Atomic ids faults (HookTag.set key port hookId) s (.ok (retagged key port hookId))
      (s.put .port (l₁ ++ retagged key port hookId :: l₂)) := by
  rw [setTag_eq hsame, ← hsame]
  exact update hs .port h hid _

theorem Ends.setTag (hs : s.Sound ids) {l₁ l₂ : List Port} {port q : Port}
    (h : s.ports = l₁ ++ q :: l₂) (hookId : Option String)
    (hsame : retagged key q hookId = retagged key port hookId) :
    Ends ids faults (HookTag.set key port hookId) s (Refused faults (Kind.port.key q) s)
      fun a t ↦ a = retagged key port hookId ∧
        t = s.put .port (l₁ ++ retagged key port hookId :: l₂) := by
  rw [setTag_eq hsame, ← hsame]
  exact update hs .port h _

/-- What a look at the hook of a port may find: a hook that is stored, or none, where a tag whose
classifier is gone has been cleared. -/
inductive Looked (key : String) (s : Service) (l₁ l₂ : List Port) (port : Port) :
    Option String → Service → Prop
  | live {hookId : String} (htag : tag? key port = some hookId)
      (hstored : s.Stores .flowClassifier hookId) : Looked key s l₁ l₂ port (some hookId) s
  | bare (htag : tag? key port = none) : Looked key s l₁ l₂ port none s
  | healed {hookId : String} (htag : tag? key port = some hookId) (hid : hookId ≠ "")
      (hgone : ¬ s.Stores .flowClassifier hookId) :
      Looked key s l₁ l₂ port none (s.put .port (l₁ ++ retagged key port none :: l₂))

theorem Atomic.liveHook (key : String) (hs : s.Sound ids) {l₁ l₂ : List Port} {port : Port}
    (h : s.ports = l₁ ++ port :: l₂) (hid : Kind.port.key port ≠ "") :
    ∃ r t, (∀ faults, Atomic ids faults (liveHook key port) s r t) ∧
      (tag? key port = some "" ∧ (∃ e, r = .error e ∧ e.isPartial = false) ∧ t = s ∨
        ∃ found, r = .ok found ∧ Looked key s l₁ l₂ port found t) := by
  rw [HookTag.liveHook]
  cases htag : tag? key port with
  | none => exact ⟨_, s, fun _ ↦ done, .inr ⟨none, rfl, .bare htag⟩⟩
  | some hookId =>
    by_cases hblank : hookId = ""
    · rw [hblank]
      exact ⟨_, s, fun _ ↦ stop (get_blank s .flowClassifier), .inl ⟨rfl, ⟨_, rfl, rfl⟩, rfl⟩⟩
    · have hget (faults : Faults) : Atomic ids faults (Gateway.get .flowClassifier hookId) s _ s :=
        get_of_ne s .flowClassifier hblank
      cases hfind : s.find? .flowClassifier hookId with
      | some classifier =>
        rw [hfind] at hget
        have hstored : s.Stores .flowClassifier hookId :=
          hs.stores_of_find? hfind
        exact ⟨_, s, fun faults ↦ bind (hget faults) done, .inr ⟨_, rfl, .live htag hstored⟩⟩
      | none =>
        rw [hfind] at hget
        have hset (faults : Faults) : Atomic ids faults (HookTag.set key port none) s _ _ :=
          setTag hs h hid none rfl
        exact ⟨_, _, fun faults ↦ bind (hget faults) (last (hset faults)),
          .inr ⟨none, rfl, .healed htag hblank (hs.find?_eq_none_iff.1 hfind)⟩⟩

def Spanned (tree : ServiceFunctionChain) : Prop :=
  tree.firstIngress.bind (·.elementId) ≠ none ∧ tree.lastEgress.bind (·.elementId) ≠ none

def Built (tree : ServiceFunctionChain) (port : Port) (fallback : List String) (id : String)
    (classifier : FlowClassifier) : Prop :=
  ∃ source destination, tree.firstIngress.bind (·.elementId) = some source ∧
    tree.lastEgress.bind (·.elementId) = some destination ∧
    classifier = HookClassifier.between source destination port fallback id

theorem Built.run {tree : ServiceFunctionChain} {port : Port} {fallback : List String} {id : String}
    {classifier : FlowClassifier} (h : Built tree port fallback id classifier) {σ : Type}
    (t : Transport σ) {s s' : σ} (hdraw : t.draw s = (id, s')) :
    (HookClassifier.build tree port fallback).run t s = (.ok classifier, s') := by
  obtain ⟨source, destination, hsource, hdestination, rfl⟩ := h
  rw [HookClassifier.build, hsource, hdestination]
  exact show (Except.ok (HookClassifier.between source destination port fallback (t.draw s).1),
    (t.draw s).2) = _ by rw [hdraw]

theorem Atomic.build (ids : Nat → String) (s : Service) (tree : ServiceFunctionChain) (port : Port)
    (fallback : List String) :
    ∃ r t, (∀ faults, Atomic ids faults (HookClassifier.build tree port fallback) s r t) ∧
      (¬ Spanned tree ∧ (∃ e, r = .error e ∧ e.isPartial = false) ∧ t = s ∨
        Spanned tree ∧ (∃ c, r = .ok c ∧ Built tree port fallback (ids (s.drawn + 1)) c) ∧
          t = { s with drawn := s.drawn + 1 }) := by
  rw [HookClassifier.build, Spanned]
  cases hsource : tree.firstIngress.bind (·.elementId) with
  | none => exact ⟨_, s, fun _ ↦ fail, .inl ⟨by simp, ⟨_, rfl, rfl⟩, rfl⟩⟩
  | some source =>
    cases hdestination : tree.lastEgress.bind (·.elementId) with
    | none => exact ⟨_, s, fun _ ↦ fail, .inl ⟨by simp, ⟨_, rfl, rfl⟩, rfl⟩⟩
    | some destination =>
      let classifier := HookClassifier.between source destination port fallback (ids (s.drawn + 1))
      refine ⟨.ok classifier, { s with drawn := s.drawn + 1 }, fun faults failures hfailures ↦ ?_,
        .inr ⟨by simp, ⟨_, rfl, source, destination, hsource, hdestination, rfl⟩, rfl⟩⟩
      exact ⟨failures, _, hfailures, .inr ⟨classifier, rfl, rfl, rfl⟩⟩

end TrafficSteering
