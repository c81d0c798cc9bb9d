import TrafficSteering.Proofs.Engine.Histories
import TrafficSteering.Proofs.Engine.PartialErrors
import TrafficSteering.Proofs.Service.Stock

namespace TrafficSteering

open Engine HookTag

variable {known : (kind : Kind) → String → Prop} {α β σ : Type} {ids : Nat → String} {key : String}
  {m : Memory} {p : Program α} {xs : List Exchange}

namespace Memory.Stocked

theorem run (h : m.Stocked ids) (p : Program α) :
    (p.run (Memory.transport ids) m).2.Stocked ids := by
  induction p generalizing m with
  | done a => exact h
  | fail e => exact h
  | call c next ih => exact ih _ (h.reply c)
  | draw next ih => exact ih _ h.draw

theorem history (h : m.Stocked ids) (events : List Event) :
    (history key ids m events).Stocked ids := by
  induction events generalizing m with
  | nil => exact h
  | cons e events ih =>
    cases e with
    | request r => exact ih (h.run (r.program key))
    | failAfter f => exact ih (h.failAfter f)

theorem seeded (project : String) (ports : List Port) :
    (seeded ids project ports).Stocked ids := by
  have hfold (ports : List Port) (m : Memory) (h : m.Stocked ids) :
      (ports.foldl (fun m p ↦ (m.seedPort ids p).2) m).Stocked ids := by
    induction ports generalizing m with
    | nil => exact h
    | cons p rest ih => exact ih _ (h.seedPort p)
  exact hfold ports _ (.empty project)

end Memory.Stocked

/-- The operations that take their changes into account in every error. -/
def Engine.Request.Accounted : Request → Prop
  | removeInspectionPort _ | updateHook _ | removeHook _ => True
  | registerChain _ | updateChain _ _ | deleteChain _ => True
  | getInspectionPort _ | registerInspectionPort _ | installHook _ _ | getHook _ | getChain _ =>
    False

theorem Marks.request {r : Request} (hr : r.Accounted) : Marks known (r.program key) false := by
  cases r with
  | removeInspectionPort port => exact removeInspectionPort port
  | updateHook hook => exact updateHook key hook
  | removeHook hook => exact removeHook key hook
  | registerChain groups => exact registerChain groups
  | updateChain chain groups => exact updateChain chain groups
  | deleteChain chain => exact deleteChain chain
  | getInspectionPort | registerInspectionPort | installHook | getHook | getChain => exact hr.elim

theorem changed_eq_true : changed xs = true ↔ ∃ x ∈ xs, x.applied = true := List.any_eq_true

/-- Whatever answers the calls, the error of such an operation is partial just where a creation, an
update or a deletion had succeeded before; any other error leaves a memory with all that it stored,
whatever that was. -/
theorem Engine.Request.isPartial_iff {r : Request} (hr : r.Accounted) :
    (∀ {σ : Type} (t : Transport σ) (s : σ) (e : Error), ((r.program key).run t s).1 = .error e →
      (e.isPartial = true ↔ ∃ x ∈ (r.program key).exchanges t s, x.applied = true)) ∧
    ∀ (ids : Nat → String) (m : Memory), m.Stocked ids → ∀ e : Error,
      (r.run key ids m).1 = .error e → e.isPartial = false → (r.run key ids m).2.StoresAs m := by
  have hmarks {σ : Type} (t : Transport σ) (s : σ) (e : Error)
      (hrun : ((r.program key).run t s).1 = .error e) :
      e.isPartial = changed ((r.program key).exchanges t s) :=
    (Marks.request hr [] rfl).of_run t s hrun
  refine ⟨?_, ?_⟩
  · intro σ t s e hrun
    rw [hmarks t s e hrun]
    exact changed_eq_true
  · intro ids m hm e hrun hplain
    have hunchanged := (hmarks (Memory.transport ids) m e hrun).symm.trans hplain
    exact (Marks.request hr [] rfl).storesAs hm.keyed (.refl m) rfl hunchanged

def Sample.refusedRemoval : Memory :=
  history defaultKey numberedId (seeded numberedId "project" Sample.ports)
    [.request (.registerInspectionPort span),
      .failAfter { kind := .portPair, operation := .delete, status := some 503 }]

/-- A group goes before its pair is refused; a group in a chain is refused at once. -/
theorem sample_half_removed :
    Request.Accounted (.removeInspectionPort Sample.span) ∧
      (∃ e, ((Request.removeInspectionPort Sample.span).run defaultKey numberedId
          Sample.refusedRemoval).1 = .error e ∧ e.isPartial = true ∧
        ∃ x ∈ ((Request.removeInspectionPort Sample.span).program defaultKey).exchanges
          (Memory.transport numberedId) Sample.refusedRemoval, x.applied = true) ∧
      Sample.memory.Stocked numberedId ∧
      ∃ e, ((Request.removeInspectionPort Sample.span).run defaultKey numberedId
          Sample.memory).1 = .error e ∧ e.isPartial = false ∧
        ((Request.removeInspectionPort Sample.span).run defaultKey numberedId
          Sample.memory).2.StoresAs Sample.memory := by
  have haccounted : Request.Accounted (.removeInspectionPort Sample.span) := trivial
  have hstocked : Sample.memory.Stocked numberedId := (Memory.Stocked.seeded _ _).history _
  obtain ⟨hpartial, hplain⟩ := @Request.isPartial_iff defaultKey _ haccounted
  refine ⟨haccounted, ⟨_, rfl, rfl, ?_⟩, hstocked, ⟨_, rfl, rfl, ?_⟩⟩
  · exact (hpartial (Memory.transport numberedId) Sample.refusedRemoval _ rfl).1 rfl
  · exact hplain numberedId Sample.memory hstocked _ rfl rfl

/-- All groups were asked for, and the answer could not be used. -/
def Exchange.unlisted (x : Exchange) : Bool := decide (x.1 = .list .portPairGroup []) && !x.accepted

def unlisted (xs : List Exchange) : Bool := xs.getLast?.any Exchange.unlisted

@[simp] theorem unlisted_append (xs : List Exchange) (x : Exchange) :
    unlisted (xs ++ [x]) = x.unlisted := by simp [unlisted]

theorem unlisted_eq_true : unlisted xs = true ↔
    ∃ x ∈ xs.getLast?, x.1 = .list .portPairGroup [] ∧ x.accepted = false := by
  simp [unlisted, Exchange.unlisted, Option.any_eq_true]

theorem unlisted_eq_false : unlisted xs = false ↔
    ∀ x ∈ xs.getLast?, x.1 = .list .portPairGroup [] → x.accepted = true := by
  rw [← Bool.not_eq_true, unlisted_eq_true]
  simp only [not_exists, not_and, Bool.not_eq_false]

theorem Reads.concludes {P : α → Prop} {f : α → Program β} {E : Error → List Exchange → Prop}
    {R : β → List Exchange → Prop} (hp : Reads known p false P) (hxs : changed xs = false)
    (hE : ∀ e ys, e.isPartial = false → changed ys = false → E e ys)
    (hf : ∀ a, P a → ∀ ys, changed ys = false → Concludes known (f a) ys E R) :
    Concludes known (p >>= f) xs E R := by
  refine (hp xs hxs).bind (fun e ys h ↦ hE e ys h.1 h.2) ?_
  intro a ys h
  exact hf a (h.2 rfl) ys h.1

theorem Asks.stops {c : Call} {P : α → Prop} (hp : Asks known p c P)
    (hc : changed xs = false → c.Grounded known) (hlist : c ≠ .list .portPairGroup []) :
    Concludes known p xs
      (fun e ys ↦ e.isPartial = false ∧ changed ys = changed xs ∧ unlisted ys = false)
      fun _ _ ↦ True := by
  refine (hp xs hc).mono ?_ fun _ _ _ ↦ trivial
  intro e ys h
  obtain ⟨he, r, rfl, hr⟩ := h
  have happlied : Exchange.applied ⟨c, r⟩ = false := by rw [Exchange.applied, hr, Bool.and_false]
  refine ⟨he, by rw [changed_append, happlied, Bool.or_false], ?_⟩
  rw [unlisted_append, Exchange.unlisted, decide_eq_false hlist, Bool.false_and]

namespace Concludes

theorem groupOfPair (pairId : String) : Concludes known (Lookup.groupOfPair pairId) xs
    (fun e ys ↦ e.isPartial = false ∧ unlisted ys = true)
    fun _ ys ↦ changed ys = changed xs ∧ unlisted ys = false := by
  have hlist (r : Except TransportError (List Json)) :
      Exchange.unlisted ⟨.list .portPairGroup [], r⟩ =
        !Exchange.accepted ⟨.list .portPairGroup [], r⟩ := rfl
  refine bind (Asks.list .portPairGroup [] xs fun _ ↦ trivial) ?_ ?_
  · intro e ys h
    obtain ⟨he, r, rfl, hr⟩ := h
    rw [unlisted_append, hlist, hr]
    exact ⟨he, rfl⟩
  · intro groups ys h
    obtain ⟨r, rfl, hr, -⟩ := h
    refine ⟨(changed_append xs _).trans (Bool.or_false _), ?_⟩
    rw [unlisted_append, hlist, hr]
    rfl

theorem placePair {group : Option PortPairGroup}
    (hknown : changed xs = false → ∀ g ∈ group, known .portPairGroup (g.id.getD ""))
    (hlisted : unlisted xs = false) (pairId : String) :
    Concludes known (placePair group pairId) xs
      (fun e ys ↦ e.isPartial = false ∧ changed ys = changed xs ∧ unlisted ys = false)
      fun _ _ ↦ True := by
  cases group with
  | none => exact Asks.stops (.create .portPairGroup _) (fun _ ↦ ⟨_, rfl⟩) (by simp)
  | some g =>
    by_cases hid : g.id.getD "" = ""
    · rw [Engine.placePair, Gateway.update, Gateway.requireId, if_pos hid]
      exact ⟨rfl, rfl, hlisted⟩
    · exact Asks.stops (.update hid _) (fun hxs ↦ ⟨hknown hxs g rfl, _, rfl⟩) (by simp)

theorem findOrCreatePair (ingress egress : String) :
    Acts known (findOrCreatePair ingress egress) false fun found c ↦ c = found.2 := by
  refine Reads.before (.pairByPorts _ _) fun found _ ↦ ?_
  cases found with
  | some pair => exact .done rfl
  | none => exact .last (.create .portPair _) fun _ _ h ↦ h

theorem requestedGroup (port : InspectionPort) : Reads known (requestedGroup port) false
    fun found ↦ ∀ g ∈ found, known .portPairGroup (g.id.getD "") := by
  have hnone : Reads known (pure none : Program (Option PortPairGroup)) false
      fun found ↦ ∀ g ∈ found, known .portPairGroup (g.id.getD "") :=
    .done fun _ g hg ↦ absurd hg (Option.not_mem_none g)
  unfold Engine.requestedGroup
  split
  · exact hnone
  · split
    · exact hnone
    · refine .bind (.get .portPairGroup _) fun found hfound ↦ ?_
      refine .bind (.requireFound found _ _) fun group hgroup ↦ .done fun hb g hg ↦ ?_
      cases hg
      exact (hfound hb group (hgroup hb)).2

theorem registerInspectionPort (port : InspectionPort) :
    Concludes known (registerInspectionPort port) []
      (fun e ys ↦ e.isPartial = (changed ys && !unlisted ys)) fun _ _ ↦ True := by
  have hplain (e : Error) (ys : List Exchange) (he : e.isPartial = false)
      (hys : changed ys = false) : e.isPartial = (changed ys && !unlisted ys) := by
    rw [he, hys, Bool.false_and]
  refine Reads.concludes (.requireText _ _) rfl hplain fun ingress _ xs hxs ↦ ?_
  refine Reads.concludes (.requireText _ _) hxs hplain fun egress _ xs hxs ↦ ?_
  refine Reads.concludes (requestedGroup port) hxs hplain fun requested hrequested xs hxs ↦ ?_
  refine (findOrCreatePair ingress egress xs hxs).bind (fun e ys h ↦ hplain e ys h.1 h.2) ?_
  intro found ys hys
  obtain ⟨pair, created⟩ := found
  refine bind (groupOfPair _) ?_ fun group zs hzs ↦ ?_
  · intro e zs h
    rw [h.1, h.2, Bool.not_true, Bool.and_false]
  · cases group with
    | some group => exact trivial
    | none =>
      refine bind (mapError ((placePair (fun _ ↦ hrequested) hzs.2 _).mono ?_ fun _ _ h ↦ h))
        (fun _ _ h ↦ h) fun _ _ _ ↦ trivial
      intro e ws h
      obtain ⟨he, hws, hunlisted⟩ := h
      have hcreated : changed ws = created := hws.trans (hzs.1.trans hys)
      rw [hcreated, hunlisted, Bool.not_false, Bool.and_true]
      cases created with
      | true => rfl
      | false => exact he

end Concludes

/-- Whatever answers the calls, the error of a registration is partial just where a creation or an
update had succeeded before, unless the last call was to list the groups and its answer could not
be used; in any other case an error that is not partial leaves a memory with all that it stored. -/
theorem registerInspectionPort_isPartial_iff (port : InspectionPort) :
    (∀ {σ : Type} (t : Transport σ) (s : σ) (e : Error),
      ((registerInspectionPort port).run t s).1 = .error e →
      (e.isPartial = true ↔
        (∃ x ∈ (registerInspectionPort port).exchanges t s, x.applied = true) ∧
          ∀ x ∈ ((registerInspectionPort port).exchanges t s).getLast?,
            x.1 = .list .portPairGroup [] → x.accepted = true)) ∧
    ∀ (ids : Nat → String) (m : Memory), m.Stocked ids → ∀ e : Error,
      ((registerInspectionPort port).run (Memory.transport ids) m).1 = .error e →
      e.isPartial = false →
      ((registerInspectionPort port).run (Memory.transport ids) m).2.StoresAs m ∨
        ∃ x ∈ ((registerInspectionPort port).exchanges (Memory.transport ids) m).getLast?,
          x.1 = .list .portPairGroup [] ∧ x.accepted = false := by
  refine ⟨?_, ?_⟩
  · intro σ t s e hrun
    have he := (Concludes.registerInspectionPort port).of_run t s hrun
    rw [List.nil_append] at he
    rw [he, Bool.and_eq_true, Bool.not_eq_true', changed_eq_true, unlisted_eq_false]
  · intro ids m hm e hrun hplain
    have he := (Concludes.registerInspectionPort port).of_run (Memory.transport ids) m hrun
    rw [List.nil_append, hplain] at he
    obtain hunchanged | hunlisted := Bool.and_eq_false_iff.1 he.symm
    · exact .inl ((Concludes.registerInspectionPort port).storesAs hm.keyed (.refl m) rfl
        hunchanged)
    · exact .inr (unlisted_eq_true.1 (by simpa using hunlisted))

def Sample.unlisting : Memory :=
  history defaultKey numberedId (seeded numberedId "project" Sample.ports)
    [.failAfter { kind := .portPairGroup, operation := .list, status := none }]

theorem sample_unlisted :
    Sample.unlisting.Stocked numberedId ∧ Sample.unlisting.count .portPair = 0 ∧
      ∃ e, ((registerInspectionPort Sample.span).run (Memory.transport numberedId)
          Sample.unlisting).1 = .error e ∧ e.isPartial = false ∧
        ((registerInspectionPort Sample.span).run (Memory.transport numberedId)
          Sample.unlisting).2.count .portPair = 1 ∧
        ¬ ((∃ x ∈ (registerInspectionPort Sample.span).exchanges (Memory.transport numberedId)
            Sample.unlisting, x.applied = true) ∧
          ∀ x ∈ ((registerInspectionPort Sample.span).exchanges (Memory.transport numberedId)
            Sample.unlisting).getLast?, x.1 = .list .portPairGroup [] → x.accepted = true) ∧
        ∃ x ∈ ((registerInspectionPort Sample.span).exchanges (Memory.transport numberedId)
            Sample.unlisting).getLast?, x.1 = .list .portPairGroup [] ∧ x.accepted = false := by
  have hstocked : Sample.unlisting.Stocked numberedId := (Memory.Stocked.seeded _ _).history _
  obtain ⟨hpartial, hplain⟩ := registerInspectionPort_isPartial_iff Sample.span
  refine ⟨hstocked, rfl, _, rfl, rfl, rfl, ?_, ?_⟩
  · intro h
    have htrue := (hpartial (Memory.transport numberedId) Sample.unlisting _ rfl).2 h
    exact absurd htrue Bool.false_ne_true
  · refine (hplain numberedId Sample.unlisting hstocked _ rfl rfl).resolve_left fun hsame ↦ ?_
    have hcount : ((registerInspectionPort Sample.span).run (Memory.transport numberedId)
        Sample.unlisting).2.count .portPair = Sample.unlisting.count .portPair := by
      rw [hsame]
      rfl
    exact absurd hcount (by decide)

end TrafficSteering
