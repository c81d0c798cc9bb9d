import TrafficSteering.Proofs.Service.Inventory

namespace TrafficSteering

/-- Whether earlier steps of the operation had changed something. -/
def Error.isPartial : Error → Bool
  | .partialApply _ _ => true
  | _ => false

/-- Which calls may be made to fail, and with which status. -/
def Faults := Kind → Operation → Option Nat → Prop

namespace Faults

def any : Faults := fun _ _ _ ↦ True

def never : Faults := fun _ _ _ ↦ False

/-- A delete does not fail with a status that says that the resource is gone. -/
def honest : Faults := fun _ operation status ↦
  operation = .delete → ∀ code ∈ status, ¬ (200 ≤ code ∧ code < 300) ∧ code ≠ 404

def Covers (faults : Faults) (failures : List Failure) : Prop :=
  ∀ f ∈ failures, faults f.kind f.operation f.status

def Possible (faults : Faults) : Prop := ∃ kind operation status, faults kind operation status

variable {faults : Faults} {failures : List Failure}

theorem covers_nil : faults.Covers [] := fun _ h ↦ absurd h List.not_mem_nil

theorem any_covers : any.Covers failures := fun _ _ ↦ trivial

theorem not_possible_never : ¬ never.Possible := fun ⟨_, _, _, h⟩ ↦ h

theorem Covers.take (h : faults.Covers failures) (kind : Kind) (operation : Operation) :
    faults.Covers (Failure.take kind operation failures).2 ∧
      ∀ f ∈ (Failure.take kind operation failures).1, faults kind operation f.status := by
  induction failures with
  | nil => exact ⟨covers_nil, nofun⟩
  | cons f rest ih =>
    obtain ⟨hf, hrest⟩ := List.forall_mem_cons.1 h
    rw [Failure.take]
    split
    · rename_i hkind
      obtain ⟨rfl, rfl⟩ := hkind
      cases f.skip with
      | zero => exact ⟨hrest, fun g hg ↦ Option.some.inj hg ▸ hf⟩
      | succ skip => exact ⟨List.forall_mem_cons.2 ⟨hf, hrest⟩, nofun⟩
    · obtain ⟨hcovers, hhit⟩ := ih hrest
      exact ⟨List.forall_mem_cons.2 ⟨hf, hcovers⟩, hhit⟩

end Faults

variable (ids : Nat → String) (faults : Faults) {α β : Type}

/-- The program ends, in an error as `E` has it or with a value as `Q` has it. -/
def Ends (p : Program α) (s : Service) (E : Error → Service → Prop) (Q : α → Service → Prop) :
    Prop :=
  ∀ failures, faults.Covers failures → ∃ rest t, faults.Covers rest ∧
    ((∃ e, p.run (Memory.transport ids) (s.memory failures) = (.error e, t.memory rest) ∧ E e t) ∨
      ∃ a, p.run (Memory.transport ids) (s.memory failures) = (.ok a, t.memory rest) ∧ Q a t)

/-- Undisturbed, the program takes `s` to `t` with the outcome `r`; an injected failure ends it with
nothing changed. -/
def Atomic (p : Program α) (s : Service) (r : Except Error α) (t : Service) : Prop :=
  Ends ids faults p s
    (fun e u ↦ r = .error e ∧ u = t ∨ faults.Possible ∧ e.isPartial = false ∧ u = s)
    (fun a u ↦ r = .ok a ∧ u = t)

def calm (p : Program α) (s : Service) : Except Error α × Memory :=
  p.run (Memory.transport ids) (s.memory [])

variable {ids faults} {s t u : Service} {E E' : Error → Service → Prop}
  {Q : α → Service → Prop} {R : β → Service → Prop} {p : Program α} {f : α → Program β}
  {a : α} {b : β} {e : Error} {r : Except Error α} {r' : Except Error β}

namespace Ends

theorem done (h : Q a s) : Ends ids faults (pure a) s E Q :=
  fun failures hf ↦ ⟨failures, s, hf, .inr ⟨a, rfl, h⟩⟩

theorem fail (h : E e s) : Ends ids faults (.fail e : Program α) s E Q :=
  fun failures hf ↦ ⟨failures, s, hf, .inl ⟨e, rfl, h⟩⟩

theorem bind (hp : Ends ids faults p s E' Q) (he : ∀ e t, E' e t → E e t)
    (hf : ∀ a t, Q a t → Ends ids faults (f a) t E R) : Ends ids faults (p >>= f) s E R := by
  intro failures hfailures
  have hrun := Program.run_bind (Memory.transport ids) p f (s.memory failures)
  obtain ⟨rest, t, hrest, ⟨e, hp, hE⟩ | ⟨a, hp, hQ⟩⟩ := hp failures hfailures
  · rw [hp] at hrun
    exact ⟨rest, t, hrest, .inl ⟨e, hrun, he e t hE⟩⟩
  · rw [hp] at hrun
    obtain ⟨rest', t', hrest', h⟩ := hf a t hQ rest hrest
    refine ⟨rest', t', hrest', h.imp ?_ ?_⟩
    · exact fun ⟨e, h, hE⟩ ↦ ⟨e, hrun.trans h, hE⟩
    · exact fun ⟨b, h, hR⟩ ↦ ⟨b, hrun.trans h, hR⟩

theorem mono {Q' : α → Service → Prop} (hp : Ends ids faults p s E' Q')
    (he : ∀ e t, E' e t → E e t) (hq : ∀ a t, Q' a t → Q a t) : Ends ids faults p s E Q := by
  intro failures hfailures
  obtain ⟨rest, t, hrest, h⟩ := hp failures hfailures
  refine ⟨rest, t, hrest, h.imp ?_ ?_⟩
  · exact fun ⟨e, h, hE⟩ ↦ ⟨e, h, he e t hE⟩
  · exact fun ⟨a, h, hQ⟩ ↦ ⟨a, h, hq a t hQ⟩

theorem mapError {g : Error → Error} (hp : Ends ids faults p s (fun e ↦ E (g e)) Q) :
    Ends ids faults (p.mapError g) s E Q := by
  intro failures hfailures
  have hrun := Program.run_mapError (Memory.transport ids) g p (s.memory failures)
  obtain ⟨rest, t, hrest, ⟨e, hp, hE⟩ | ⟨a, hp, hQ⟩⟩ := hp failures hfailures
  · rw [hp] at hrun
    exact ⟨rest, t, hrest, .inl ⟨g e, hrun, hE⟩⟩
  · rw [hp] at hrun
    exact ⟨rest, t, hrest, .inr ⟨a, hrun, hQ⟩⟩

theorem bindMapped {g : Error → Error} (hp : Ends ids faults p s E' Q)
    (he : ∀ e t, E' e t → E (g e) t) (hf : ∀ a t, Q a t → Ends ids faults (f a) t E R) :
    Ends ids faults (p.mapError g >>= f) s E R :=
  bind (mapError (hp.mono he fun _ _ h ↦ h)) (fun _ _ h ↦ h) hf

theorem step (hp : Atomic ids faults p s r t)
    (hfault : faults.Possible → ∀ e, e.isPartial = false → E e s)
    (herror : ∀ e, r = .error e → E e t)
    (hok : ∀ a, r = .ok a → Ends ids faults (f a) t E R) : Ends ids faults (p >>= f) s E R := by
  refine bind hp ?_ ?_
  · rintro e u (⟨hr, rfl⟩ | ⟨hpossible, hpartial, rfl⟩)
    · exact herror e hr
    · exact hfault hpossible e hpartial
  · rintro a u ⟨hr, rfl⟩
    exact hok a hr

theorem read (hp : Atomic ids faults p s r s) (hE : ∀ e, E e s)
    (hok : ∀ a, r = .ok a → Ends ids faults (f a) s E R) : Ends ids faults (p >>= f) s E R :=
  step hp (fun _ e _ ↦ hE e) (fun e _ ↦ hE e) hok

theorem halt (hp : Atomic ids faults p s (.error e) s) (hE : ∀ e, E e s) :
    Ends ids faults (p >>= f) s E R := read hp hE nofun

theorem pass (hp : Atomic ids faults p s (.ok a) t)
    (hfault : faults.Possible → ∀ e, e.isPartial = false → E e s)
    (hok : Ends ids faults (f a) t E R) : Ends ids faults (p >>= f) s E R := by
  refine step hp hfault nofun ?_
  rintro _ ⟨⟩
  exact hok

theorem passAfter {step : String} (hp : Atomic ids faults p s (.ok a) t)
    (hfault : faults.Possible → ∀ e, e.isPartial = false → E (.partialApply step e) s)
    (hok : Ends ids faults (f a) t E R) :
    Ends ids faults (p.afterChanges true step >>= f) s E R := by
  refine bindMapped hp ?_ ?_
  · rintro e u (⟨⟨⟩, -⟩ | ⟨hpossible, hpartial, rfl⟩)
    exact hfault hpossible e hpartial
  · rintro _ u ⟨⟨⟩, rfl⟩
    exact hok

end Ends

namespace Atomic

theorem done : Atomic ids faults (pure a) s (.ok a) s := Ends.done ⟨rfl, rfl⟩

theorem fail : Atomic ids faults (.fail e : Program α) s (.error e) s := Ends.fail (.inl ⟨rfl, rfl⟩)

theorem lift (x : Except Error α) : Atomic ids faults (liftM x) s x s := by
  cases x with
  | ok a => exact done
  | error e => exact fail

theorem bind (hp : Atomic ids faults p s (.ok a) s) (hf : Atomic ids faults (f a) s r' t) :
    Atomic ids faults (p >>= f) s r' t := by
  refine Ends.step hp (fun hpossible e he ↦ .inr ⟨hpossible, he, rfl⟩) nofun ?_
  rintro _ ⟨⟩
  exact hf

theorem stop (hp : Atomic ids faults p s (.error e) s) :
    Atomic ids faults (p >>= f) s (.error e) s := by
  refine Ends.step hp (fun hpossible e he ↦ .inr ⟨hpossible, he, rfl⟩) ?_ nofun
  rintro _ ⟨⟩
  exact .inl ⟨rfl, rfl⟩

theorem last {g : α → β} (hp : Atomic ids faults p s (.ok a) t) :
    Atomic ids faults (p >>= fun a ↦ pure (g a)) s (.ok (g a)) t := by
  refine Ends.step hp (fun hpossible e he ↦ .inr ⟨hpossible, he, rfl⟩) nofun ?_
  rintro _ ⟨⟩
  exact Ends.done ⟨rfl, rfl⟩

theorem run_eq (hp : Atomic ids .never p s r t) : calm ids p s = (r, t.memory []) := by
  obtain ⟨rest, u, hrest, h⟩ := hp [] Faults.covers_nil
  have hnil : rest = [] := List.eq_nil_iff_forall_not_mem.2 fun f hf ↦ hrest f hf
  subst hnil
  rcases h with ⟨e, hrun, ⟨rfl, rfl⟩ | ⟨hpossible, -⟩⟩ | ⟨a, hrun, rfl, rfl⟩
  · exact hrun
  · exact absurd hpossible Faults.not_possible_never
  · exact hrun

theorem unique {r' : Except Error α} (hp : Atomic ids .never p s r t)
    (hp' : Atomic ids .never p s r' u) : r = r' ∧ t = u := by
  obtain ⟨hr, ht⟩ := Prod.mk.inj (hp.run_eq.symm.trans hp'.run_eq)
  exact ⟨hr, Service.memory_injective ht⟩

end Atomic

def Refused (faults : Faults) (id : String) (s : Service) (e : Error) (t : Service) : Prop :=
  t = s ∧ e.isPartial = false ∧ (faults.Possible ∨ id = "")

theorem Ends.refused {id : String} (hid : id ≠ "" → Atomic ids faults p s (.ok a) t)
    (hblank : id = "" → ∃ e, e.isPartial = false ∧ Atomic ids faults p s (.error e) s) :
    Ends ids faults p s (Refused faults id s) fun b u ↦ b = a ∧ u = t := by
  by_cases h : id = ""
  · obtain ⟨e, he, hp⟩ := hblank h
    refine hp.mono ?_ (fun _ _ h ↦ nomatch h.1)
    rintro _ u (⟨⟨⟩, rfl⟩ | ⟨hpossible, he, rfl⟩)
    · exact ⟨rfl, he, .inr h⟩
    · exact ⟨rfl, he, .inl hpossible⟩
  · refine (hid h).mono ?_ ?_
    · rintro e u (⟨⟨⟩, -⟩ | ⟨hpossible, he, rfl⟩)
      exact ⟨rfl, he, .inl hpossible⟩
    · rintro b u ⟨⟨⟩, rfl⟩
      exact ⟨rfl, rfl⟩

variable {m : Memory}

theorem Memory.reply_undisturbed (c : Call) (h : m.failures = []) :
    (Memory.reply ids c m).2.failures = [] := by
  have htake (kind : Kind) (operation : Operation) :
      m.takeFailure kind operation = (none, m) := by
    rw [takeFailure, h]
    cases m
    cases h
    rfl
  cases c with
  | create kind body =>
    rw [reply, create, htake]
    dsimp only
    split <;> exact h
  | get kind id =>
    rw [reply, get, htake]
    exact h
  | list kind query =>
    rw [reply, list, htake]
    exact h
  | update kind id body =>
    rw [reply, update, htake]
    dsimp only
    split <;> exact h
  | delete kind id =>
    rw [reply, delete, htake]
    dsimp only
    split <;> exact h

theorem run_undisturbed (p : Program α) (h : m.failures = []) :
    (p.run (Memory.transport ids) m).2.failures = [] := by
  induction p generalizing m with
  | done | fail => exact h
  | call c next ih => exact ih _ (Memory.reply_undisturbed c h)
  | draw next ih => exact ih _ h

namespace Ends

theorem undisturbed (h : Ends ids faults p s E Q) : Ends ids .never p s E Q := by
  intro failures hfailures
  have hnil : failures = [] := List.eq_nil_iff_forall_not_mem.2 hfailures
  subst hnil
  have hempty : (p.run (Memory.transport ids) (s.memory [])).2.failures = [] :=
    run_undisturbed p rfl
  obtain ⟨rest, t, -, h⟩ := h [] Faults.covers_nil
  have hrest : rest = [] := by
    rcases h with ⟨e, hrun, -⟩ | ⟨a, hrun, -⟩ <;> rwa [hrun] at hempty
  subst hrest
  exact ⟨[], t, Faults.covers_nil, h⟩

theorem calm_cases (h : Ends ids faults p s E Q) :
    ∃ t, (∃ e, calm ids p s = (.error e, t.memory []) ∧ E e t) ∨
      ∃ a, calm ids p s = (.ok a, t.memory []) ∧ Q a t := by
  obtain ⟨rest, t, hrest, h⟩ := h.undisturbed [] Faults.covers_nil
  have hnil : rest = [] := List.eq_nil_iff_forall_not_mem.2 hrest
  subst hnil
  exact ⟨t, h⟩

theorem calm_ok (h : Ends ids faults p s E Q) (hcalm : calm ids p s = (.ok a, m)) :
    ∃ t, m = t.memory [] ∧ Q a t := by
  obtain ⟨t, ⟨e, hrun, -⟩ | ⟨a', hrun, hq⟩⟩ := h.calm_cases
  · cases hcalm.symm.trans hrun
  · cases hcalm.symm.trans hrun
    exact ⟨t, rfl, hq⟩

theorem calm_bind (h : Ends ids faults p s E Q) (hcalm : calm ids (p >>= f) s = (.ok b, m)) :
    ∃ a t, Q a t ∧ calm ids (f a) t = (.ok b, m) := by
  have hrun : calm ids (p >>= f) s = _ :=
    Program.run_bind (Memory.transport ids) p f (s.memory [])
  obtain ⟨t, ⟨e, hp, -⟩ | ⟨a, hp, hq⟩⟩ := h.calm_cases
  · rw [show p.run (Memory.transport ids) (s.memory []) = _ from hp, hcalm] at hrun
    cases hrun
  · rw [show p.run (Memory.transport ids) (s.memory []) = _ from hp, hcalm] at hrun
    exact ⟨a, t, hq, hrun.symm⟩

end Ends

theorem Atomic.of_calm (h : calm ids p s = (r, t.memory [])) : Atomic ids .never p s r t := by
  intro failures hfailures
  have hnil : failures = [] := List.eq_nil_iff_forall_not_mem.2 hfailures
  subst hnil
  refine ⟨[], t, Faults.covers_nil, ?_⟩
  cases r with
  | error e => exact .inl ⟨e, h, .inl ⟨rfl, rfl⟩⟩
  | ok a => exact .inr ⟨a, h, rfl, rfl⟩

theorem Atomic.calm_bind (hp : Atomic ids .never p s r t)
    (hcalm : calm ids (p >>= f) s = (.ok b, m)) :
    ∃ a, r = .ok a ∧ calm ids (f a) t = (.ok b, m) := by
  obtain ⟨a, u, ⟨hr, rfl⟩, h⟩ := Ends.calm_bind hp hcalm
  exact ⟨a, hr, h⟩

theorem calm_mapError {g : Error → Error} :
    calm ids (p.mapError g) s = (.ok a, m) ↔ calm ids p s = (.ok a, m) := by
  rw [calm, calm, Program.run_mapError]
  rcases p.run (Memory.transport ids) (s.memory []) with ⟨e | b, n⟩
  · constructor <;> intro h <;> cases h
  · exact Iff.rfl

theorem calm_mapError_bind {g : Error → Error} :
    calm ids (p.mapError g >>= f) s = (.ok b, m) ↔ calm ids (p >>= f) s = (.ok b, m) := by
  have hmapped : calm ids (p.mapError g >>= f) s = _ :=
    Program.run_bind (Memory.transport ids) (p.mapError g) f (s.memory [])
  have hplain : calm ids (p >>= f) s = _ :=
    Program.run_bind (Memory.transport ids) p f (s.memory [])
  rw [hmapped, hplain, Program.run_mapError]
  rcases p.run (Memory.transport ids) (s.memory []) with ⟨e | a, n⟩
  · constructor <;> intro h <;> cases h
  · exact Iff.rfl

theorem calm_step (hp : Atomic ids .never p s (.ok a) t) :
    calm ids (p >>= f) s = calm ids (f a) t := by
  have hrun := Program.run_bind (Memory.transport ids) p f (s.memory [])
  rw [show p.run _ _ = _ from hp.run_eq] at hrun
  exact hrun

end TrafficSteering
