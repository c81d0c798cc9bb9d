import TrafficSteering.Proofs.Engine.Lookups
import TrafficSteering.Proofs.Service.Readings

namespace TrafficSteering

open HookTag Lookup

variable {α : Type} {ids : Nat → String} {m : Memory} {key hookId : String} {ports : List Port}
  {c : FlowClassifier} {groups : List PortPairGroup} {chains : List PortChain} {chain : PortChain}
  {allowed : Option String} {id : String} {groupIds before rest : List String}
  {x : Except Error Unit}

theorem find?_eq_some_of_countP {p : α → Bool} {l : List α} {a : α} (hone : l.countP p ≤ 1)
    (ha : a ∈ l) (hp : p a = true) : l.find? p = some a := by
  obtain ⟨b, hb⟩ := Option.isSome_iff_exists.1 (List.find?_isSome.2 ⟨a, ha, hp⟩)
  have hmem : a ∈ l.filter p := List.mem_filter.2 ⟨ha, hp⟩
  have hfound : b ∈ l.filter p :=
    List.mem_filter.2 ⟨List.mem_of_find?_eq_some hb, List.find?_some hb⟩
  rw [List.countP_eq_length_filter] at hone
  obtain ⟨d, hd⟩ : ∃ d, l.filter p = [d] :=
    List.length_eq_one_iff.1 (Nat.le_antisymm hone (List.length_pos_of_mem hmem))
  rw [hd, List.mem_singleton] at hmem hfound
  rw [hb, hfound, hmem]

namespace Tells

theorem taggedWith (hcalm : m.failures = []) (hports : m.Keeps .port ports) :
    Tells ids m (HookTag.taggedWith key hookId)
      (.ok (ports.find? fun p ↦ tag? key p == some hookId)) :=
  (listAll hcalm hports).bind (done _)

theorem taggedPort (key : String) (hcalm : m.failures = []) (hports : m.Keeps .port ports)
    (hc : c.id = some hookId) :
    ∃ found, Tells ids m (HookTag.taggedPort key c) (.ok found) ∧
      (found = (ports.find? fun p ↦ tag? key p == some hookId) ∨
        ∃ p ∈ ports, tag? key p = some hookId ∧ found = some p) := by
  have hall : Tells ids m (HookTag.taggedWith key hookId) _ := taggedWith hcalm hports
  rw [HookTag.taggedPort, hc]
  cases c.destinationAddress with
  | none => exact ⟨_, hall, .inl rfl⟩
  | some address =>
    obtain ⟨found, hsub, hlisted⟩ := list hcalm hports (PortFilter.byAddress address).toQuery
    cases hfind : found.find? fun p ↦ tag? key p == some hookId with
    | none =>
      refine ⟨_, hlisted.bind ?_, .inl rfl⟩
      simp only [hfind]
      exact hall
    | some p =>
      have hp : p ∈ ports := hsub.subset (List.mem_of_find?_eq_some hfind)
      have htag : tag? key p = some hookId := by simpa using List.find?_some hfind
      refine ⟨some p, hlisted.bind ?_, .inr ⟨p, hp, htag, rfl⟩⟩
      simp only [hfind]
      exact done (some p)

end Tells

/-- The search by address first finds a port whenever one carries the tag, and only such a port;
where no more than one does, it finds what the search among all ports finds. -/
theorem taggedPort_exact (key : String) (ids : Nat → String) (hcalm : m.failures = [])
    (hports : m.Keeps .port ports) (hc : c.id = some hookId) :
    ∃ found scanned,
      (taggedPort key c).run (Memory.transport ids) m = (.ok found, m) ∧
      (taggedWith key hookId).run (Memory.transport ids) m = (.ok scanned, m) ∧
      (found.isSome ↔ ∃ p ∈ ports, tag? key p = some hookId) ∧
      (∀ p, found = some p → p ∈ ports ∧ tag? key p = some hookId) ∧
      (ports.countP (fun p ↦ tag? key p == some hookId) ≤ 1 → found = scanned) := by
  obtain ⟨found, hrun, hfound⟩ : ∃ found, Tells ids m (taggedPort key c) (.ok found) ∧ _ :=
    Tells.taggedPort key hcalm hports hc
  refine ⟨found, _, hrun, Tells.taggedWith hcalm hports, ?_⟩
  obtain rfl | ⟨p, hp, htag, rfl⟩ := hfound
  · refine ⟨?_, fun p hp ↦ ⟨List.mem_of_find?_eq_some hp, by simpa using List.find?_some hp⟩,
      fun _ ↦ rfl⟩
    simp only [List.find?_isSome, beq_iff_eq]
  · refine ⟨iff_of_true rfl ⟨p, hp, htag⟩, ?_, fun hone ↦
      (find?_eq_some_of_countP hone hp (beq_iff_eq.2 htag)).symm⟩
    rintro _ ⟨⟩
    exact ⟨hp, htag⟩

namespace Sample

def addressed : Service where
  ports := [{ id := some "left", fixedIps := [{ ipAddress := "10.0.0.5" }] },
    { id := some "right", profile := some (Dict.empty.insert defaultKey (.str "hook")) }]
  project := "project"

def grouped : Service where
  portPairGroups := [{ id := some "first" }, { id := some "second" }]
  portChains := [{ id := some "chain", portPairGroups := ["second"] }]
  project := "project"

end Sample

theorem sample_tagged_elsewhere :
    (Sample.addressed.memory []).failures = [] ∧
      (Sample.addressed.memory []).Keeps .port Sample.addressed.ports ∧
      ∃ port,
        (taggedPort defaultKey
            { id := some "hook", destinationIpPrefix := some "10.0.0.5/32" }).run
          (Memory.transport numberedId) (Sample.addressed.memory []) =
            (.ok (some port), Sample.addressed.memory []) ∧
        (taggedWith defaultKey "hook").run (Memory.transport numberedId)
          (Sample.addressed.memory []) = (.ok (some port), Sample.addressed.memory []) ∧
        tag? defaultKey port = some "hook" := by
  have hports : (Sample.addressed.memory []).Keeps .port Sample.addressed.ports :=
    Sample.addressed.keeps [] .port
  obtain ⟨found, scanned, hfound, hscanned, hsome, htag, hsame⟩ :=
    taggedPort_exact defaultKey numberedId
      (c := { id := some "hook", destinationIpPrefix := some "10.0.0.5/32" }) rfl hports rfl
  obtain rfl := hsame (by decide)
  obtain ⟨port, rfl⟩ := Option.isSome_iff_exists.1
    (hsome.2 ⟨_, List.mem_cons_of_mem _ List.mem_cons_self, rfl⟩)
  exact ⟨rfl, hports, port, hfound, hscanned, (htag port rfl).2⟩

def First (P : α → Prop) (l : List α) (a : α) : Prop :=
  ∃ before after, l = before ++ a :: after ∧ P a ∧ ∀ b ∈ before, ¬ P b

theorem First.mem {P : α → Prop} {l : List α} {a : α} (h : First P l a) : a ∈ l := by
  obtain ⟨before, after, rfl, -⟩ := h
  exact List.mem_append_right _ List.mem_cons_self

theorem First.holds {P : α → Prop} {l : List α} {a : α} (h : First P l a) : P a := by
  obtain ⟨-, -, -, ha, -⟩ := h
  exact ha

theorem first_iff {P : α → Prop} [DecidablePred P] {l : List α} {a : α} :
    First P l a ↔ l.find? (fun b ↦ decide (P b)) = some a := by
  rw [List.find?_eq_some_iff_append]
  constructor
  · rintro ⟨before, after, hl, ha, hbefore⟩
    exact ⟨decide_eq_true ha, before, after, hl, fun b hb ↦ by simp [hbefore b hb]⟩
  · rintro ⟨ha, before, after, hl, hbefore⟩
    exact ⟨before, after, hl, of_decide_eq_true ha, fun b hb ↦ by simpa using hbefore b hb⟩

theorem exists_first {P : α → Prop} {l : List α} {a : α} (ha : a ∈ l) (hp : P a) :
    ∃ b, First P l b := by
  classical
  obtain ⟨b, hb⟩ := Option.isSome_iff_exists.1
    (List.find?_isSome.2 ⟨a, ha, decide_eq_true hp⟩ : (l.find? fun b ↦ decide (P b)).isSome)
  exact ⟨b, first_iff.2 hb⟩

def ListsElsewhere (allowed : Option String) (groupId : String) (chain : PortChain) : Prop :=
  groupId ∈ chain.portPairGroups ∧ ∀ a ∈ allowed, chain.id ≠ some a

instance : DecidablePred (ListsElsewhere allowed id) := fun _ ↦
  inferInstanceAs (Decidable (_ ∧ ∀ a ∈ allowed, _))

namespace Lookup

theorem chainedGroup?_eq (chains : List PortChain) (allowed : Option String)
    (groupIds : List String) :
    chainedGroup? chains allowed groupIds =
      groupIds.findSome? fun id ↦
        (chains.find? fun c ↦ decide (ListsElsewhere allowed id c)).map
          fun chain ↦ (id, chain) := by
  unfold chainedGroup?
  dsimp only
  congr 1
  funext id
  congr 1
  cases allowed with
  | none => simp [ListsElsewhere]
  | some a =>
    rw [List.find?_filter]
    congr 1
    funext c
    simp [ListsElsewhere, and_comm]

theorem chainedGroup?_eq_none (h : ∀ id ∈ groupIds, ∀ c ∈ chains, ¬ ListsElsewhere allowed id c) :
    chainedGroup? chains allowed groupIds = none :=
  Atomic.chainedGroup?_eq_none_iff.2 fun id hid c hc hne hlists ↦ h id hid c hc ⟨hlists, hne⟩

theorem chainedGroup?_eq_some
    (hid : First (fun id ↦ ∃ c ∈ chains, ListsElsewhere allowed id c) groupIds id)
    (hchain : First (ListsElsewhere allowed id) chains chain) :
    chainedGroup? chains allowed groupIds = some (id, chain) := by
  obtain ⟨before, after, hsplit, -, hbefore⟩ := hid
  rw [chainedGroup?_eq, List.findSome?_eq_some_iff]
  refine ⟨before, id, after, hsplit, by rw [first_iff.1 hchain]; rfl, fun b hb ↦ ?_⟩
  rw [Option.map_eq_none_iff, List.find?_eq_none]
  exact fun c hc hlists ↦ hbefore b hb ⟨c, hc, of_decide_eq_true hlists⟩

end Lookup

namespace Tells

theorem unique {p : Program α} {x y : Except Error α} (hx : Tells ids m p x)
    (hy : Tells ids m p y) : x = y := congrArg Prod.fst (hx.symm.trans hy)

theorem requireGroups_append (hcalm : m.failures = []) (hgroups : m.Keeps .portPairGroup groups)
    (hnamed : ∀ id ∈ before, id ≠ "")
    (hstored : ∀ id ∈ before, id ∈ (m.collections.get .portPairGroup).keys)
    (h : Tells ids m (requireGroups rest) x) : Tells ids m (requireGroups (before ++ rest)) x := by
  induction before with
  | nil => exact h
  | cons id before ih =>
    obtain ⟨hid, hnamed⟩ := List.forall_mem_cons.1 hnamed
    obtain ⟨hmem, hstored⟩ := List.forall_mem_cons.1 hstored
    obtain ⟨group, -, hget⟩ := get_stored ids hcalm hid hgroups hmem
    exact hget.bind (ih hnamed hstored)

theorem validateGroups_absent (hcalm : m.failures = []) (hgroups : m.Keeps .portPairGroup groups)
    (hnamed : ∀ id ∈ groupIds, id ≠ "")
    (h : First (· ∉ (m.collections.get .portPairGroup).keys) groupIds id) :
    Tells ids m (validateGroups groupIds allowed) (.error (.notFound "Port Pair Group" id)) := by
  obtain ⟨before, after, rfl, habsent, hbefore⟩ := h
  have hid : id ≠ "" := hnamed id (List.mem_append_right _ List.mem_cons_self)
  refine stop (requireGroups_append hcalm hgroups
    (fun g hg ↦ hnamed g (List.mem_append_left _ hg))
    (fun g hg ↦ not_not.1 (hbefore g hg)) ?_)
  exact (get_absent hcalm hid habsent).bind (fail _)

theorem validateGroups_stored (hcalm : m.failures = []) (hgroups : m.Keeps .portPairGroup groups)
    (hchains : m.Keeps .portChain chains) (hnamed : ∀ id ∈ groupIds, id ≠ "")
    (hstored : ∀ id ∈ groupIds, id ∈ (m.collections.get .portPairGroup).keys) :
    Tells ids m (validateGroups groupIds allowed)
      (match chainedGroup? chains allowed groupIds with
        | some (id, chain) => .error (chainedElsewhere id (chain.id.getD ""))
        | none => .ok ()) := by
  have hrequired : Tells ids m (requireGroups (groupIds ++ [])) (.ok ()) :=
    requireGroups_append hcalm hgroups hnamed hstored (done ())
  rw [List.append_nil] at hrequired
  refine hrequired.bind ((listAll hcalm hchains).bind ?_)
  rcases chainedGroup? chains allowed groupIds with _ | ⟨id, chain⟩
  · exact done ()
  · exact fail _

end Tells

/-- Groups can be chained when every one is stored and no other chain lists any of them. The first
that is not stored is reported before any that is chained elsewhere. -/
theorem validateGroups_exact (ids : Nat → String) (allowed : Option String)
    (hcalm : m.failures = []) (hgroups : m.Keeps .portPairGroup groups)
    (hchains : m.Keeps .portChain chains) (hnamed : ∀ id ∈ groupIds, id ≠ "") :
    ∃ x, (validateGroups groupIds allowed).run (Memory.transport ids) m = (x, m) ∧
      (x = .ok () ↔ ∀ id ∈ groupIds, id ∈ (m.collections.get .portPairGroup).keys ∧
        ∀ chain ∈ chains, ¬ ListsElsewhere allowed id chain) ∧
      (∀ id, First (· ∉ (m.collections.get .portPairGroup).keys) groupIds id →
        x = .error (.notFound "Port Pair Group" id)) ∧
      ((∀ id ∈ groupIds, id ∈ (m.collections.get .portPairGroup).keys) →
        ∀ id chain,
          First (fun id ↦ ∃ chain ∈ chains, ListsElsewhere allowed id chain) groupIds id →
          First (ListsElsewhere allowed id) chains chain →
          x = .error (.conflict ("Port Pair Group Id " ++ id ++
            " is already chained to SFC Id : " ++ chain.id.getD "" ++ " "))) := by
  -- groups are looked up before chains are listed, so an absent group is reported first
  by_cases hstored : ∀ id ∈ groupIds, id ∈ (m.collections.get .portPairGroup).keys
  · refine ⟨_, Tells.validateGroups_stored hcalm hgroups hchains hnamed hstored, ?_, ?_, ?_⟩
    · by_cases hfree : ∀ id ∈ groupIds, ∀ chain ∈ chains, ¬ ListsElsewhere allowed id chain
      · rw [chainedGroup?_eq_none hfree]
        exact iff_of_true rfl fun id hid ↦ ⟨hstored id hid, hfree id hid⟩
      · push Not at hfree
        obtain ⟨g, hg, hlisted⟩ := hfree
        obtain ⟨id, hid⟩ : ∃ id, First (fun id ↦ ∃ c ∈ chains, ListsElsewhere allowed id c)
            groupIds id := exists_first hg hlisted
        obtain ⟨c, hc, hlists⟩ := hid.holds
        obtain ⟨chain, hchain⟩ := exists_first hc hlists
        rw [chainedGroup?_eq_some hid hchain]
        exact iff_of_false nofun fun h ↦ (h id hid.mem).2 c hc hlists
    · exact fun id hid ↦ absurd (hstored id hid.mem) hid.holds
    · intro _ id chain hid hchain
      rw [chainedGroup?_eq_some hid hchain]
      rfl
  · push Not at hstored
    obtain ⟨g, hg, habsent⟩ := hstored
    obtain ⟨id, hid⟩ : ∃ id, First (· ∉ (m.collections.get .portPairGroup).keys) groupIds id :=
      exists_first hg habsent
    have hrun : Tells ids m (validateGroups groupIds allowed) _ :=
      Tells.validateGroups_absent hcalm hgroups hnamed hid
    refine ⟨_, hrun, iff_of_false nofun fun h ↦ hid.holds (h id hid.mem).1, fun other hother ↦
      hrun.unique (Tells.validateGroups_absent hcalm hgroups hnamed hother), fun h ↦
        absurd (h g hg) habsent⟩

theorem sample_second_chained :
    (Sample.grouped.memory []).failures = [] ∧
      (Sample.grouped.memory []).Keeps .portPairGroup Sample.grouped.portPairGroups ∧
      (Sample.grouped.memory []).Keeps .portChain Sample.grouped.portChains ∧
      (∀ id ∈ ["first", "second"], id ≠ "") ∧
      (validateGroups ["first", "second"] none).run (Memory.transport numberedId)
          (Sample.grouped.memory []) =
        (.error (.conflict "Port Pair Group Id second is already chained to SFC Id : chain "),
          Sample.grouped.memory []) := by
  have hgroups : (Sample.grouped.memory []).Keeps .portPairGroup Sample.grouped.portPairGroups :=
    Sample.grouped.keeps [] .portPairGroup
  have hchains : (Sample.grouped.memory []).Keeps .portChain Sample.grouped.portChains :=
    Sample.grouped.keeps [] .portChain
  have hnamed : ∀ id ∈ ["first", "second"], id ≠ "" := by decide
  obtain ⟨x, hrun, -, -, hlisted⟩ :=
    validateGroups_exact numberedId none rfl hgroups hchains hnamed
  refine ⟨rfl, hgroups, hchains, hnamed, hrun.trans ?_⟩
  rw [hlisted (by decide) "second" { id := some "chain", portPairGroups := ["second"] }
    ⟨["first"], [], rfl, by decide, by decide⟩ ⟨[], [], rfl, by decide, by decide⟩]
  rfl

end TrafficSteering
