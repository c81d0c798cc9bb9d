import TrafficSteering.Proofs.Engine.Attachments
import TrafficSteering.Proofs.Engine.Checks
import TrafficSteering.Proofs.Engine.HookStages
import TrafficSteering.Proofs.Service.Careful

namespace TrafficSteering

open Engine HookTag

variable {key : String} {ids : Nat → String} {s t : Service} {α β : Type} {p : Program α}
  {f : α → Program β} {r : Except Error α}

namespace Program.Careful

variable {kind : Kind}

theorem first (kind : Kind) (query : Query) (test : kind.Resource → Bool) :
    (Gateway.list kind query >>= fun l ↦ pure (l.find? test)).Careful :=
  bind (list kind query) fun _ ↦ done _

theorem requireFound {γ : Type} (found : Option γ) (name id : String) :
    (liftM (Guard.requireFound found name id) : Program γ).Careful := by
  cases found with
  | none => exact fail nofun
  | some a => exact done a

theorem requireChain {chainId : String} (hid : chainId ≠ "") :
    (Engine.requireChain chainId).Careful := bind (get hid) fun found ↦ requireFound found _ _

theorem pairOf (port : InspectionPort) : (Lookup.pairOf port).Careful := by
  have hends : Program.Careful (if port.ingressId.isNone && port.egressId.isNone then pure none
      else Lookup.pairByPorts port.ingressId port.egressId) := by
    split
    · exact done none
    · exact first .portPair [] _
  unfold Lookup.pairOf
  cases port.elementId with
  | none => exact hends
  | some id =>
    dsimp only
    split
    · exact hends
    · rename_i hid
      refine bind (get hid) fun found ↦ ?_
      cases found with
      | some pair => exact done _
      | none => exact hends

theorem requestedGroup (port : InspectionPort) : (Engine.requestedGroup port).Careful := by
  unfold Engine.requestedGroup
  cases port.parentId with
  | none => exact done none
  | some id =>
    dsimp only
    split
    · exact done none
    · rename_i hid
      exact bind (get hid) fun found ↦ bind (requireFound found _ _) fun _ ↦ done _

theorem findOrCreatePair {ingress egress : String} (hingress : ingress ≠ "")
    (hegress : egress ≠ "") : (Engine.findOrCreatePair ingress egress).Careful := by
  refine bind (first .portPair [] _) fun found ↦ ?_
  cases found with
  | some pair => exact done _
  | none =>
    have hended : (newPair ingress egress).Ended := by simp [PortPair.Ended, newPair, *]
    exact bind (create ⟨newPair ingress egress, rfl, hended⟩) fun _ ↦ done _

theorem placePair {group : Option PortPairGroup}
    (h : ∀ g ∈ group, Kind.portPairGroup.key g ≠ "") (pairId : String) :
    (Engine.placePair group pairId).Careful := by
  cases group with
  | none => exact create trivial
  | some g => exact update (h g rfl) trivial

theorem leaveGroup {group : PortPairGroup} (h : Kind.portPairGroup.key group ≠ "")
    (pairId : String) : (Engine.leaveGroup group pairId).Careful := by
  unfold Engine.leaveGroup
  dsimp only
  split
  · exact delete h
  · exact bind (update h trivial) fun _ ↦ done _

theorem requireGroups {groupIds : List String} (h : ∀ id ∈ groupIds, id ≠ "") :
    (Lookup.requireGroups groupIds).Careful := by
  induction groupIds with
  | nil => exact done ()
  | cons id rest ih =>
    obtain ⟨hid, hrest⟩ := List.forall_mem_cons.1 h
    refine bind (get hid) fun found ↦ ?_
    cases found with
    | none => exact fail nofun
    | some g => exact ih hrest

theorem validateGroups {groupIds : List String} (h : ∀ id ∈ groupIds, id ≠ "")
    (allowed : Option String) : (Lookup.validateGroups groupIds allowed).Careful := by
  refine bind (requireGroups h) fun _ ↦ bind (list .portChain []) fun chains ↦ ?_
  split
  · exact fail nofun
  · exact done ()

theorem endpoint {portId : Option String} (h : portId ≠ some "") (parentId : String) :
    (Lookup.endpoint portId parentId).Careful := by
  cases portId with
  | none => exact done none
  | some id => exact bind (get fun hid ↦ h (congrArg some hid)) fun _ ↦ done _

theorem inspectionPort {pair : PortPair} (h : pair.Ended) (groupId : Option String) :
    (Lookup.inspectionPort pair groupId).Careful :=
  bind (endpoint h.1 _) fun _ ↦ bind (endpoint h.2 _) fun _ ↦ done _

theorem setChain {chainId : String} (h : chainId ≠ "") (chain : PortChain) :
    (Gateway.update .portChain chainId chain).Careful := update h trivial

theorem setClassifiers {chain : PortChain} (h : Kind.portChain.key chain ≠ "")
    (hookIds : List String) : (Engine.setClassifiers chain hookIds).Careful := setChain h _

theorem setTag {port : Port} (h : Kind.port.key port ≠ "") (hookId : Option String) :
    (HookTag.set key port hookId).Careful := update h trivial

theorem taggedPort (key : String) (classifier : FlowClassifier) :
    (HookTag.taggedPort key classifier).Careful := by
  unfold HookTag.taggedPort
  split
  · exact done none
  · split
    · exact first .port _ _
    · refine bind (list .port _) fun ports ↦ ?_
      split
      · exact done _
      · exact first .port _ _

theorem liveHook {port : Port} (h : Kind.port.key port ≠ "")
    (htag : ∀ hookId ∈ tag? key port, hookId ≠ "") : (HookTag.liveHook key port).Careful := by
  unfold HookTag.liveHook
  split
  · exact done none
  · rename_i hookId hhook
    refine bind (get (htag hookId hhook)) fun found ↦ ?_
    cases found with
    | some classifier => exact done _
    | none => exact bind (setTag h none) fun _ ↦ done _

theorem build (tree : ServiceFunctionChain) (port : Port) (fallback : List String) :
    (HookClassifier.build tree port fallback).Careful := by
  unfold HookClassifier.build
  split
  · exact fun _ ↦ done _
  · exact fail nofun

end Program.Careful

theorem Service.Sound.ended_memory (hs : s.Sound ids) (failures : List Failure) :
    (s.memory failures).Ended ↔ ∀ p ∈ s.portPairs, PortPair.Ended p := by
  constructor
  · intro h p hp
    have hget : ((s.memory failures).collections.get .portPair).get? (Kind.portPair.key p) =
        some (Kind.portPair.encode p) := by
      rw [s.get_memory, Kind.get?_written]
      exact congrArg (Option.map Kind.portPair.encode) (hs.find?_of_mem .portPair hp)
    exact h _ _ p hget (Kind.decode_encode .portPair p)
  · intro h id value p hget hp
    rw [s.get_memory, Kind.get?_written] at hget
    obtain ⟨q, hfind, rfl⟩ := Option.map_eq_some_iff.1 hget
    cases (Kind.decode_encode .portPair q).symm.trans hp
    exact h p (List.mem_of_find?_eq_some hfind)

/-- What holds of every service that comes about by requests, where the ids that are drawn are
distinct and none of them is blank. -/
structure Service.Orderly (key : String) (ids : Nat → String) (s : Service) : Prop where
  distinct : Function.Injective ids
  visible : ∀ n, Text.blank (ids n) = false
  valid : s.Valid ids
  tagged : s.Tagged key ids
  ended : ∀ p ∈ s.portPairs, PortPair.Ended p

/-- Whatever failures are injected, the program blames no argument here, and the ends of all pairs
are named after it. -/
def CarefulAt (ids : Nat → String) (p : Program α) (s : Service) : Prop :=
  ∀ failures, (∀ e, (p.run (Memory.transport ids) (s.memory failures)).1 = .error e →
    e.kind ≠ .invalidArgument) ∧ (p.run (Memory.transport ids) (s.memory failures)).2.Ended

theorem CarefulAt.bind {E : Error → Service → Prop} {Q : α → Service → Prop}
    (hp : CarefulAt ids p s) (hends : Ends ids .any p s E Q)
    (hf : ∀ a t, Q a t → CarefulAt ids (f a) t) : CarefulAt ids (p >>= f) s := by
  intro failures
  have hrun : (p >>= f).run (Memory.transport ids) (s.memory failures) = _ :=
    Program.run_bind (Memory.transport ids) p f (s.memory failures)
  have hcareful := hp failures
  obtain ⟨rest, t, -, ⟨e, hp, -⟩ | ⟨a, hp, hQ⟩⟩ := hends failures Faults.any_covers
  · rw [hp] at hrun hcareful
    rw [hrun]
    refine ⟨fun e' he ↦ ?_, hcareful.2⟩
    cases he
    exact hcareful.1 e rfl
  · rw [hp] at hrun
    rw [hrun]
    exact hf a t hQ rest

theorem CarefulAt.read (hp : CarefulAt ids p s) (hread : Atomic ids .any p s r s)
    (hf : ∀ a, r = .ok a → CarefulAt ids (f a) s) : CarefulAt ids (p >>= f) s :=
  bind hp hread fun a _ hQ ↦ hQ.2 ▸ hf a hQ.1

theorem CarefulAt.before (hp : CarefulAt ids p s) (hs : s.Sound ids) (hf : ∀ a, (f a).Careful) :
    CarefulAt ids (p >>= f) s := by
  intro failures
  have hrun : (p >>= f).run (Memory.transport ids) (s.memory failures) = _ :=
    Program.run_bind (Memory.transport ids) p f (s.memory failures)
  have hcareful := hp failures
  have hkeyed : (p.run (Memory.transport ids) (s.memory failures)).2.Keyed :=
    (hs.keyed failures).run p
  rw [hrun]
  generalize p.run (Memory.transport ids) (s.memory failures) = x at hcareful hkeyed ⊢
  obtain ⟨e | a, n⟩ := x
  · refine ⟨fun e' he ↦ ?_, hcareful.2⟩
    cases he
    exact hcareful.1 e rfl
  · exact (hf a).run hkeyed hcareful.2

namespace Service.Orderly

theorem steps (h : s.Orderly key ids) (hsteps : Steps key ids s t)
    (hpairs : t.portPairs = s.portPairs) : t.Orderly key ids where
  distinct := h.distinct
  visible := h.visible
  valid := h.valid.steps h.distinct hsteps
  tagged := h.tagged.steps h.distinct hsteps
  ended := hpairs ▸ h.ended

theorem id_ne (h : s.Orderly key ids) (kind : Kind) (hport : kind ≠ .port) {r : kind.Resource}
    (hr : r ∈ s.get kind) : kind.key r ≠ "" := h.valid.sound.id_ne h.visible kind hport hr

theorem stored_ne (h : s.Orderly key ids) {kind : Kind} (hport : kind ≠ .port) {id : String}
    (hstored : s.Stores kind id) : id ≠ "" := by
  obtain ⟨r, hr, hid⟩ := hstored
  exact Kind.key_eq hid ▸ h.id_ne kind hport hr

theorem tag_ne (h : s.Orderly key ids) {port : Port} (hport : port ∈ s.ports) :
    ∀ hookId ∈ tag? key port, hookId ≠ "" := by
  intro hookId htag
  obtain ⟨n, -, rfl⟩ := h.tagged.drawn port hport hookId htag
  exact Text.ne_empty_of_blank (h.visible n)

theorem careful (h : s.Orderly key ids) (hp : p.Careful) : CarefulAt ids p s := fun failures ↦
  hp.run (h.valid.sound.keyed failures) ((h.valid.sound.ended_memory failures).2 h.ended)

theorem look (h : s.Orderly key ids) (hp : p.Careful) (hread : Atomic ids .any p s r s)
    (hf : ∀ a, r = .ok a → CarefulAt ids (f a) s) : CarefulAt ids (p >>= f) s :=
  .read (h.careful hp) hread hf

theorem inspectionPorts (h : s.Orderly key ids) (groupId : String) {pairIds : List String}
    (hpairs : ∀ id ∈ pairIds, id ≠ "") :
    CarefulAt ids (Lookup.inspectionPorts groupId pairIds) s := by
  induction pairIds with
  | nil => exact h.careful (.done [])
  | cons id rest ih =>
    obtain ⟨hid, hrest⟩ := List.forall_mem_cons.1 hpairs
    refine h.look (.get hid) (.get_of_ne s .portPair hid) fun found hfound ↦ ?_
    cases found with
    | none => exact ih hrest
    | some pair =>
      have hended := h.ended pair (List.mem_of_find?_eq_some (Except.ok.inj hfound))
      obtain ⟨r, hr⟩ := ReadsAlike.inspectionPort (t := s) (fun _ _ ↦ rfl) pair (some groupId)
      obtain ⟨r', hr'⟩ := ReadsAlike.inspectionPorts (t := s) (fun _ _ ↦ rfl) rfl groupId rest
      refine h.look (.inspectionPort hended _) (hr .any).1 fun _ _ ↦ ?_
      exact .read (ih hrest) (hr' .any).1 fun _ _ ↦ h.careful (.done _)

theorem groups (h : s.Orderly key ids) (chainId : String) {groupIds : List String}
    (hgroups : ∀ id ∈ groupIds, id ≠ "") : CarefulAt ids (Lookup.groups chainId groupIds) s := by
  induction groupIds with
  | nil => exact h.careful (.done [])
  | cons id rest ih =>
    obtain ⟨hid, hrest⟩ := List.forall_mem_cons.1 hgroups
    refine h.look (.get hid) (.get_of_ne s .portPairGroup hid) fun found hfound ↦ ?_
    cases found with
    | none => exact ih hrest
    | some group =>
      have hgroup := List.mem_of_find?_eq_some (Except.ok.inj hfound)
      have hpairs : ∀ pairId ∈ group.portPairs, pairId ≠ "" := fun pairId hpair ↦
        h.stored_ne (by decide) (h.valid.linked.pairsStored group hgroup pairId hpair)
      obtain ⟨r, hr⟩ :=
        ReadsAlike.inspectionPorts (t := s) (fun _ _ ↦ rfl) rfl id group.portPairs
      obtain ⟨r', hr'⟩ := ReadsAlike.groups (t := s) (fun _ _ ↦ rfl) rfl rfl chainId rest
      refine .read (h.inspectionPorts id hpairs) (hr .any).1 fun _ _ ↦ ?_
      exact .read (ih hrest) (hr' .any).1 fun _ _ ↦ h.careful (.done _)

theorem chainTree (h : s.Orderly key ids) {chain : PortChain} (hchain : chain ∈ s.portChains) :
    CarefulAt ids (Lookup.chainTree chain) s := by
  have hgroups : ∀ id ∈ chain.portPairGroups, id ≠ "" := fun id hid ↦
    h.stored_ne (by decide) (h.valid.linked.groupsStored chain hchain id hid)
  obtain ⟨r, hr⟩ :=
    ReadsAlike.groups (t := s) (fun _ _ ↦ rfl) rfl rfl (chain.id.getD "") chain.portPairGroups
  exact .read (h.groups _ hgroups) (hr .any).1 fun _ _ ↦ h.careful (.done _)

theorem clearVanished (h : s.Orderly key ids) (hookId : String) :
    CarefulAt ids (HookTag.clearVanished key hookId) s := by
  refine h.look (.first .port _ _) (.taggedWith s hookId) fun found hfound ↦ ?_
  cases found with
  | none => exact h.careful (.done none)
  | some port =>
    have hfind := Except.ok.inj hfound
    have htag : tag? key port = some hookId := by simpa using List.find?_some hfind
    have hne := h.tagged.named port (List.mem_of_find?_eq_some hfind) (by simp [htag])
    exact h.careful (.bind (.setTag hne none) fun _ ↦ .done _)

theorem detachFromChain (h : s.Orderly key ids) (hookId : String) :
    CarefulAt ids (detachFromChain hookId) s := by
  refine h.look (.first .portChain [] _) (.chainOfClassifier s hookId) fun found hfound ↦ ?_
  cases found with
  | none => exact h.careful (.done false)
  | some chain =>
    have hmem := (Inventory.chainOfClassifier_eq_some (Except.ok.inj hfound)).1
    have hne := h.id_ne .portChain (by decide) hmem
    exact h.careful (.bind (.setClassifiers hne _) fun _ ↦ .done true)

end Service.Orderly

def Blameless (key : String) (p : Program α) : Prop :=
  ∀ ids s, Service.Orderly key ids s → CarefulAt ids p s

namespace Guarded

theorem getInspectionPort (port : InspectionPort) :
    Guarded (Blameless key) [] (getInspectionPort port) := by
  refine done fun ids s h ↦ h.look (.pairOf port) (.pairOf s port) fun found hfound ↦ ?_
  cases found with
  | none => exact h.careful (.done none)
  | some pair =>
    have hpair := Inventory.mem_of_pairOf (Except.ok.inj hfound)
    exact h.careful (.bind (.first .portPairGroup [] _) fun group ↦
      .bind (.inspectionPort (h.ended pair hpair) _) fun _ ↦ .done _)

theorem registerInspectionPort (port : InspectionPort) :
    Guarded (Blameless key)
      [("Ingress port", present port.ingressId), ("Egress port", present port.egressId)]
      (registerInspectionPort port) := by
  refine text fun ingress _ hingress ↦ text fun egress _ hegress ↦ done fun ids s h ↦ ?_
  refine h.look (.requestedGroup port) (.requestedGroup s port) fun requested hrequested ↦ ?_
  have hgroup : ∀ g ∈ requested, Kind.portPairGroup.key g ≠ "" := by
    rintro g rfl
    exact h.id_ne .portPairGroup (by decide) (requestedGroup_eq_ok hrequested)
  refine h.careful (.bind (.findOrCreatePair hingress hegress) fun x ↦ ?_)
  refine .bind (.first .portPairGroup [] _) fun group ↦ ?_
  cases group with
  | some group => exact .done _
  | none => exact .bind (.afterChanges (.placePair hgroup _) _ _) fun _ ↦ .done _

theorem removeInspectionPort (port : InspectionPort) :
    Guarded (Blameless key) [] (removeInspectionPort port) := by
  refine done fun ids s h ↦ h.look (.pairOf port) (.pairOf s port) fun found hfound ↦ ?_
  cases found with
  | none => exact h.careful (.done ())
  | some pair =>
    have hpair : Kind.portPair.key pair ≠ "" :=
      h.id_ne .portPair (by decide) (Inventory.mem_of_pairOf (Except.ok.inj hfound))
    refine h.look (.first .portPairGroup [] _) (.groupOfPair s _) fun group hgroup ↦ ?_
    cases group with
    | none => exact h.careful (.afterChanges (.delete hpair) _ _)
    | some group =>
      have hmem := (Inventory.groupOfPair_eq_some (Except.ok.inj hgroup)).1
      have hne := h.id_ne .portPairGroup (by decide) hmem
      exact h.careful (.bind (.leaveGroup hne _) fun _ ↦ .afterChanges (.delete hpair) _ _)

theorem installHook (inspected chain : Element) :
    Guarded (Blameless key)
      [("Inspected port", present inspected.id), ("Inspection port", present chain.id)]
      (installHook key inspected chain) := by
  refine text fun inspectedId _ hinspected ↦ text fun chainId _ hchain ↦ done fun ids s h ↦ ?_
  obtain ⟨r, hr, hrequired⟩ := Atomic.requireChain ids s chainId
  refine h.look (.requireChain hchain) (hr _) fun stored hstored ↦ ?_
  have hfind := ((hrequired stored).1 hstored).2
  have hstored : stored ∈ s.portChains := List.mem_of_find?_eq_some hfind
  obtain ⟨rfl, -⟩ := Inventory.find?_eq_some hfind
  refine h.look (.get hinspected) (.get_of_ne s .port hinspected) fun found hfound ↦ ?_
  refine h.look (.requireFound found _ _) (.lift _) fun port hport ↦ ?_
  have hfind := (Except.ok.inj hfound).trans (Guard.requireFound_eq_ok.1 hport)
  have hlive : ∀ hookId ∈ tag? key port, hookId ≠ "" := h.tag_ne (List.mem_of_find?_eq_some hfind)
  obtain ⟨rfl, l₁, l₂, hports⟩ := Inventory.find?_eq_some hfind
  obtain ⟨r, u, hlook, hcases⟩ := Atomic.liveHook key h.valid.sound hports hinspected
  refine (h.careful (.liveHook hinspected hlive)).bind (hlook _) ?_
  rintro live w ⟨rfl, rfl⟩
  obtain ⟨-, ⟨e, ⟨⟩, -⟩, -⟩ | ⟨_, ⟨⟩, hlooked⟩ := hcases
  have hu : w.Orderly key ids := h.steps (hlooked.steps hports) (by cases hlooked <;> rfl)
  have hsame : w.portChains = s.portChains := by cases hlooked <;> rfl
  cases live with
  | some hookId => exact hu.careful (.fail nofun)
  | none =>
    obtain ⟨r, htree⟩ := Atomic.chainTree ids w stored
    refine .read (hu.chainTree (hsame ▸ hstored)) (htree _) fun tree _ ↦ ?_
    refine hu.careful (.bind (.build tree port _) fun classifier ↦ ?_)
    refine .bind (.create trivial) fun created ↦ ?_
    refine .bind (.afterChanges (.setTag hinspected _) _ _) fun _ ↦ ?_
    exact .bind (.afterChanges (.setClassifiers hchain _) _ _) fun _ ↦ .done _

theorem updateHook (hook : InspectionHook) :
    Guarded (Blameless key)
      [("Inspection Hook Id", present hook.hookId),
        ("Inspected port", present hook.inspectedPort.elementId),
        ("Inspection port", present hook.chain.elementId)]
      (updateHook key hook) := by
  refine text fun hookId _ hhook ↦ text fun inspectedId _ _ ↦ text fun chainId _ hchain ↦ ?_
  refine done fun ids s h ↦ ?_
  refine h.look (.get hhook) (.get_of_ne s .flowClassifier hhook) fun found _ ↦ ?_
  refine h.look (.requireFound found _ _) (.lift _) fun classifier _ ↦ ?_
  refine h.look (.taggedPort key classifier) (.taggedPort s key classifier) fun port _ ↦ ?_
  dsimp only
  split
  · exact h.careful (.fail nofun)
  · obtain ⟨r, hr, hrequired⟩ := Atomic.requireChain ids s chainId
    refine h.look (.requireChain hchain) (hr _) fun stored hstored ↦ ?_
    obtain ⟨rfl, -⟩ := Inventory.find?_eq_some ((hrequired stored).1 hstored).2
    refine h.look (.first .portChain [] _) (.chainOfClassifier s hookId) fun old hold ↦ ?_
    cases old with
    | none => exact h.careful (.bind (.setClassifiers hchain _) fun _ ↦ .done _)
    | some old =>
      have hmem := (Inventory.chainOfClassifier_eq_some (Except.ok.inj hold)).1
      have hne := h.id_ne .portChain (by decide) hmem
      dsimp only
      split
      · exact h.careful (.done ())
      · refine h.careful (.bind (.setClassifiers hne _) fun _ ↦ ?_)
        exact .bind (.afterChanges (.setClassifiers hchain _) _ _) fun _ ↦ .done _

theorem removeHook (hook : String) :
    Guarded (Blameless key) [("Inspection Hook Id", present (some hook))]
      (removeHook key hook) := by
  refine text fun hookId _ hhook ↦ done fun ids s h ↦ ?_
  refine h.look (.get hhook) (.get_of_ne s .flowClassifier hhook) fun found hfound ↦ ?_
  cases found with
  | none => exact (h.clearVanished hookId).before h.valid.sound fun _ ↦ .done ()
  | some classifier =>
    have hid : classifier.id = some hookId := by
      have hfind := Except.ok.inj hfound
      obtain ⟨rfl, -⟩ := Inventory.find?_eq_some hfind
      exact h.valid.sound.idOf_eq .flowClassifier (List.mem_of_find?_eq_some hfind)
    refine h.look (.taggedPort key classifier) (.taggedPort s key classifier) fun port hport ↦ ?_
    refine (h.detachFromChain hookId).before h.valid.sound fun detached ↦ ?_
    refine .bind (.afterChanges (.delete hhook) _ _) fun _ ↦ ?_
    cases port with
    | none => exact .done ()
    | some port =>
      obtain ⟨hmem, htag⟩ := Inventory.taggedPort_eq_some hid (Except.ok.inj hport)
      have hne := h.tagged.named port hmem (by simp [htag])
      exact .bind (.afterChanges (.setTag hne none) _ _) fun _ ↦ .done ()

theorem getHook (hook : String) :
    Guarded (Blameless key) [("Inspection Hook Id", present (some hook))] (getHook key hook) := by
  refine text fun hookId _ hhook ↦ done fun ids s h ↦ ?_
  refine h.look (.get hhook) (.get_of_ne s .flowClassifier hhook) fun found hfound ↦ ?_
  cases found with
  | none => exact (h.clearVanished hookId).before h.valid.sound fun _ ↦ .done none
  | some classifier =>
    refine h.look (.taggedPort key classifier) (.taggedPort s key classifier) fun port _ ↦ ?_
    -- the chain is looked for in the same way, whether a port is tagged with the hook or not
    cases port with
    | none | some _ =>
      refine h.look (.done _) .done fun inspectedPort _ ↦ ?_
      refine h.look (.first .portChain [] _) (.chainOfClassifier s hookId) fun chain hchain ↦ ?_
      cases chain with
      | none => exact h.careful (.done _)
      | some chain =>
        have hmem := (Inventory.chainOfClassifier_eq_some (Except.ok.inj hchain)).1
        exact (h.chainTree hmem).before h.valid.sound fun _ ↦ .done _

theorem registerChain (groups : List NetworkElement) :
    Guarded (Blameless key) (("Port Pair Group member list", !groups.isEmpty) ::
        groups.map fun g ↦ ("Port Pair Group Id", present g.elementId))
      (registerChain groups) := by
  refine nonempty (groupIds fun ids hids ↦ fun _ s h ↦ h.careful ?_)
  exact .bind (.validateGroups hids none) fun _ ↦ .bind (.create trivial) fun _ ↦ .done _

theorem updateChain (chain : Element) (groups : List NetworkElement) :
    Guarded (Blameless key)
      (("Port Pair Group Service Function Chain Id", present chain.id) ::
        ("Port Pair Group update member list", !groups.isEmpty) ::
          groups.map fun g ↦ ("Port Pair Group Id", present g.elementId))
      (updateChain chain groups) := by
  refine text fun chainId _ hchain ↦ nonempty (groupIds fun ids hids ↦ fun _ s h ↦ h.careful ?_)
  refine .bind (.requireChain hchain) fun stored ↦ .bind (.validateGroups hids _) fun _ ↦ ?_
  refine .bind (.setChain hchain _) fun cleared ↦ ?_
  exact .bind (.afterChanges (.setChain hchain _) _ _) fun _ ↦ .done _

theorem deleteChain (chain : Element) :
    Guarded (Blameless key) [("Service Function Chain Id", present chain.id)]
      (deleteChain chain) := by
  refine text fun chainId _ hchain ↦ done fun ids s h ↦ h.careful ?_
  refine .bind (.requireChain hchain) fun _ ↦ .bind (.deleteRaw hchain) fun response ↦ ?_
  split
  · exact .done ()
  · exact .fail nofun

theorem getChain (chain : Element) :
    Guarded (Blameless key) [("Service Function Chain Id", present chain.id)] (getChain chain) := by
  refine text fun chainId _ hchain ↦ done fun ids s h ↦ ?_
  obtain ⟨r, hr, hrequired⟩ := Atomic.requireChain ids s chainId
  refine h.look (.requireChain hchain) (hr _) fun stored hstored ↦ ?_
  exact h.chainTree (List.mem_of_find?_eq_some ((hrequired stored).1 hstored).2)

end Guarded

/-- The checks of a request come first, and past them no argument is blamed. -/
theorem Engine.Request.guarded (key : String) (r : Request) :
    Guarded (Blameless key) r.checks (r.program key) := by
  cases r with
  | getInspectionPort port => exact .getInspectionPort port
  | registerInspectionPort port => exact .registerInspectionPort port
  | removeInspectionPort port => exact .removeInspectionPort port
  | installHook inspected chain => exact .installHook inspected chain
  | updateHook hook => exact .updateHook hook
  | removeHook hook => exact .removeHook hook
  | getHook hook => exact .getHook hook
  | registerChain groups => exact .registerChain groups
  | updateChain chain groups => exact .updateChain chain groups
  | deleteChain chain => exact .deleteChain chain
  | getChain chain => exact .getChain chain

theorem Engine.Request.program_missing {r : Request} {name : String} (h : r.missing? = some name) :
    r.program key = .fail (.invalidArgument name) := by
  obtain ⟨check, hfirst, rfl⟩ := Option.map_eq_some_iff.1 h
  exact (r.guarded key).refused hfirst

theorem Service.Bare.orderly (h : s.Bare ids) (hids : Function.Injective ids)
    (hblank : ∀ n, Text.blank (ids n) = false) (hnone : ∀ p ∈ s.ports, tag? key p = none) :
    s.Orderly key ids where
  distinct := hids
  visible := hblank
  valid := h.valid
  tagged := .of_untagged hnone
  ended p hp := by
    rw [h.portPairs] at hp
    cases hp

theorem Service.Orderly.apply (h : s.Orderly key ids) (failures : List Failure) (e : Event) :
    ∃ (rest : List Failure) (t : Service),
      e.apply key ids (s.memory failures) = t.memory rest ∧ t.Orderly key ids := by
  obtain ⟨rest, t, he, hsteps⟩ := e.apply_steps key h.valid h.distinct failures
  have hvt := h.valid.steps h.distinct hsteps
  refine ⟨rest, t, he, h.distinct, h.visible, hvt, h.tagged.steps h.distinct hsteps, ?_⟩
  rw [← hvt.sound.ended_memory rest, ← he]
  cases e with
  | failAfter f => exact (h.valid.sound.ended_memory failures).2 h.ended
  | request r =>
    cases hmissing : r.missing? with
    | none =>
      have hpassed := (r.guarded key).passed (Option.map_eq_none_iff.1 hmissing)
      exact (hpassed ids s h failures).2
    | some name =>
      rw [Event.apply, Engine.Request.run, Engine.Request.program_missing hmissing]
      exact (h.valid.sound.ended_memory failures).2 h.ended

theorem Service.Orderly.history (h : s.Orderly key ids) (failures : List Failure)
    (events : List Event) :
    ∃ (rest : List Failure) (t : Service),
      history key ids (s.memory failures) events = t.memory rest ∧ t.Orderly key ids := by
  induction events generalizing s failures with
  | nil => exact ⟨failures, s, rfl, h⟩
  | cons e events ih =>
    obtain ⟨rest, u, he, hu⟩ := h.apply failures e
    obtain ⟨rest', t, ht, hkept⟩ := ih hu rest
    refine ⟨rest', t, ?_, hkept⟩
    rw [TrafficSteering.history, List.foldl_cons, he]
    exact ht

theorem Reachable.orderly {m : Memory} (hids : Function.Injective ids)
    (hblank : ∀ n, Text.blank (ids n) = false) (h : Reachable key ids m) :
    ∃ (s : Service) (failures : List Failure), m = s.memory failures ∧ s.Orderly key ids := by
  obtain ⟨project, ports, events, huntagged, rfl⟩ := h
  obtain ⟨s, hs, hbare, hnone⟩ := seeded_untagged ids project huntagged
  obtain ⟨rest, t, ht, hkept⟩ := (hbare.orderly hids hblank hnone).history [] events
  exact ⟨t, rest, by rw [hs, ht], hkept⟩

/-- A request that does not pass its checks is refused, for the first that it does not pass, before
any call is made, whatever would answer the calls. A request that passes them all is not refused for
its arguments by a memory that has come about from ports without tags. -/
theorem arguments_checked (key : String) (r : Request) :
    (∀ name, r.missing? = some name → ∀ {σ : Type} (t : Transport σ) (s : σ),
      (r.program key).run t s = (.error (.invalidArgument name), s) ∧
        (r.program key).exchanges t s = []) ∧
      ∀ ids : Nat → String, Function.Injective ids → (∀ n, Text.blank (ids n) = false) →
        ∀ m, Reachable key ids m → r.missing? = none →
          ∀ e, (r.run key ids m).1 = .error e → e.kind ≠ .invalidArgument := by
  refine ⟨fun name hmissing σ t s ↦ ?_, fun ids hids hblank m hm hmissing e he ↦ ?_⟩
  · rw [Request.program_missing hmissing]
    exact ⟨rfl, rfl⟩
  · obtain ⟨s, failures, rfl, h⟩ := hm.orderly hids hblank
    have hpassed := (r.guarded key).passed (Option.map_eq_none_iff.1 hmissing)
    exact (hpassed ids s h failures).1 e he

namespace Sample

def blankGroup : Request :=
  .registerChain [{ elementId := some (numberedId 2) }, { elementId := some "\u2003" }]

def unknownChain : Request := .getChain (.chain { elementId := some "unknown" })

end Sample

theorem sample_arguments_checked :
    Sample.blankGroup.missing? = some "Port Pair Group Id" ∧
      Sample.blankGroup.run defaultKey numberedId Sample.memory =
        (.error (.invalidArgument "Port Pair Group Id"), Sample.memory) ∧
      Function.Injective numberedId ∧ (∀ n, Text.blank (numberedId n) = false) ∧
      Reachable defaultKey numberedId Sample.memory ∧ Sample.unknownChain.missing? = none ∧
      ∃ e, (Sample.unknownChain.run defaultKey numberedId Sample.memory).1 = .error e ∧
        e.kind ≠ .invalidArgument := by
  have hmissing : Sample.blankGroup.missing? = some "Port Pair Group Id" := by decide +kernel
  have hreachable : Reachable defaultKey numberedId Sample.memory :=
    ⟨"project", Sample.ports, Sample.events, by decide, rfl⟩
  have hpassed : Sample.unknownChain.missing? = none := by decide +kernel
  obtain ⟨hrefused, -⟩ := arguments_checked defaultKey Sample.blankGroup
  obtain ⟨-, hspared⟩ := arguments_checked defaultKey Sample.unknownChain
  exact ⟨hmissing, (hrefused _ hmissing (Memory.transport numberedId) Sample.memory).1,
    numberedId_injective, numberedId_not_blank, hreachable, hpassed, _, rfl,
    hspared numberedId numberedId_injective numberedId_not_blank _ hreachable hpassed _ rfl⟩

end TrafficSteering
