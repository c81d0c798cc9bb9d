import Mathlib.Data.List.Induction
import Mathlib.Order.Defs.Unbundled
import TrafficSteering.Gateway

namespace TrafficSteering

variable {α β σ : Type}

/-- What a program has come to that makes no more calls. -/
def Program.outcome? : Program α → Option (Except Error α)
  | .done a => some (.ok a)
  | .fail e => some (.error e)
  | .call _ _ | .draw _ => none

/-- What is left of the program of each client, and the state of the service. -/
structure Clients (α σ : Type) where
  programs : List (Program α)
  state : σ

namespace Clients

variable (t : Transport σ)

/-- A client makes its next call; one that has come to its end makes none. -/
def turn (c : Clients α σ) (i : Nat) : Clients α σ :=
  match c.programs[i]?.bind (·.step? t c.state) with
  | none => c
  | some (p, s) => { programs := c.programs.set i p, state := s }

def interleave (c : Clients α σ) (schedule : List Nat) : Clients α σ := schedule.foldl (turn t) c

variable {t} {c : Clients α σ} {i : Nat} {schedule : List Nat}

theorem turn_cases (t : Transport σ) (c : Clients α σ) (i : Nat) :
    c.programs[i]?.bind (·.step? t c.state) = none ∧ c.turn t i = c ∨
      ∃ p p' s, c.programs[i]? = some p ∧ p.step? t c.state = some (p', s) ∧
        c.turn t i = { programs := c.programs.set i p', state := s } := by
  rw [turn]
  cases hi : c.programs[i]? with
  | none => exact .inl ⟨rfl, rfl⟩
  | some p =>
    cases hstep : p.step? t c.state with
    | none => exact .inl ⟨hstep, by simp [hstep]⟩
    | some next => exact .inr ⟨p, next.1, next.2, rfl, hstep, by simp [hstep]⟩

theorem interleave_append (c : Clients α σ) (xs ys : List Nat) :
    c.interleave t (xs ++ ys) = (c.interleave t xs).interleave t ys := List.foldl_append

@[simp] theorem length_turn (c : Clients α σ) (i : Nat) :
    (c.turn t i).programs.length = c.programs.length := by
  obtain ⟨-, hsame⟩ | ⟨_, p, s, -, -, hturn⟩ := c.turn_cases t i
  · rw [hsame]
  · rw [hturn, List.length_set]

theorem length_interleave (c : Clients α σ) (schedule : List Nat) :
    (c.interleave t schedule).programs.length = c.programs.length := by
  induction schedule generalizing c with
  | nil => rfl
  | cons i rest ih => exact (ih _).trans (c.length_turn i)

def outcome? (c : Clients α σ) (i : Nat) : Option (Except Error α) :=
  c.programs[i]?.bind (·.outcome?)

/-- Client `i` comes to its end when `j` has not. -/
def EndsFirst (t : Transport σ) (c : Clients α σ) (schedule : List Nat) (i j : Nat) : Prop :=
  ∃ xs, xs <+: schedule ∧ (c.interleave t xs).outcome? i ≠ none ∧
    (c.interleave t xs).outcome? j = none

/-- Client `i` comes to its end before `j` makes its first call. -/
def Precedes (t : Transport σ) (c : Clients α σ) (schedule : List Nat) (i j : Nat) : Prop :=
  ∃ xs, xs <+: schedule ∧ (c.interleave t xs).outcome? i ≠ none ∧ j ∉ xs

theorem turn_call {call : Call} {next : call.Reply → Program α}
    (h : c.programs[i]? = some (.call call next)) :
    c.turn t i =
      { programs := c.programs.set i (next (t.reply call c.state).1)
        state := (t.reply call c.state).2 } := by
  rw [turn, h]
  rfl

variable {xs : List Nat} {j : Nat} {o : Except Error α}

theorem outcome?_turn (h : c.outcome? i = some o) (k : Nat) : (c.turn t k).outcome? i = some o := by
  obtain ⟨-, hsame⟩ | ⟨p, p', s, hp, hstep, hturn⟩ := c.turn_cases t k
  · rw [hsame, h]
  · have hne : k ≠ i := by
      rintro rfl
      rw [outcome?, hp] at h
      cases p with
      | done | fail => cases hstep
      | call | draw => cases h
    rw [hturn, outcome?, List.getElem?_set_ne hne]
    exact h

theorem outcome?_interleave (h : c.outcome? i = some o) (schedule : List Nat) :
    (c.interleave t schedule).outcome? i = some o := by
  induction schedule generalizing c with
  | nil => exact h
  | cons k rest ih => exact ih (outcome?_turn h k)

theorem outcome?_of_shorter (hshorter : xs <+: schedule)
    (h : (c.interleave t xs).outcome? i = some o) :
    (c.interleave t schedule).outcome? i = some o := by
  obtain ⟨ys, rfl⟩ := hshorter
  rw [interleave_append]
  exact outcome?_interleave h ys

theorem precedes_snoc {k : Nat} (hj : j ∈ xs ++ [k]) :
    c.Precedes t (xs ++ [k]) i j ↔ c.Precedes t xs i j := by
  constructor
  · rintro ⟨ys, hys, hi, hnot⟩
    rcases List.prefix_concat_iff.1 hys with rfl | hys
    · exact absurd hj hnot
    · exact ⟨ys, hys, hi, hnot⟩
  · rintro ⟨ys, hys, h⟩
    exact ⟨ys, hys.trans (List.prefix_append xs [k]), h⟩

theorem not_precedes (h : (c.interleave t xs).outcome? i = none) : ¬ c.Precedes t xs i j := by
  rintro ⟨ys, hys, hi, -⟩
  obtain ⟨o, ho⟩ := Option.ne_none_iff_exists'.1 hi
  cases (outcome?_of_shorter hys ho).symm.trans h

theorem not_endsFirst (h : (c.interleave t xs).outcome? i = none) : ¬ c.EndsFirst t xs i j := by
  rintro ⟨ys, hys, hi, -⟩
  obtain ⟨o, ho⟩ := Option.ne_none_iff_exists'.1 hi
  cases (outcome?_of_shorter hys ho).symm.trans h

theorem not_endsFirst_snoc {k : Nat} (h : ¬ c.EndsFirst t xs i j)
    (hj : (c.interleave t (xs ++ [k])).outcome? j ≠ none) : ¬ c.EndsFirst t (xs ++ [k]) i j := by
  rintro ⟨ys, hys, hi, hnot⟩
  rcases List.prefix_concat_iff.1 hys with rfl | hys
  · exact hj hnot
  · exact h ⟨ys, hys, hi, hnot⟩

theorem endsFirst_or (hij : i ≠ j) (hi : c.outcome? i = none)
    {schedule : List Nat} (hi' : (c.interleave t schedule).outcome? i ≠ none)
    (hj' : (c.interleave t schedule).outcome? j ≠ none) :
    c.EndsFirst t schedule i j ∨ c.EndsFirst t schedule j i := by
  induction schedule using List.reverseRecOn with
  | nil => exact absurd hi hi'
  | append_singleton xs k ih =>
    have hshorter : xs <+: xs ++ [k] := List.prefix_append xs [k]
    by_cases hix : (c.interleave t xs).outcome? i = none
    · by_cases hjx : (c.interleave t xs).outcome? j = none
      · -- one turn brings only one of them to its end
        rw [interleave_append] at hi' hj'
        obtain ⟨-, hsame⟩ | ⟨p, p', s, -, -, hturn⟩ := (c.interleave t xs).turn_cases t k
        · exact absurd ((congrArg (outcome? · i) hsame).trans hix) hi'
        · have hother {l : Nat} (hl : k ≠ l) :
              ((c.interleave t xs).interleave t [k]).outcome? l =
                (c.interleave t xs).outcome? l := by
            change ((c.interleave t xs).turn t k).outcome? l = _
            rw [hturn, outcome?, outcome?, List.getElem?_set_ne hl]
          by_cases hk : k = i
          · exact absurd ((hother (hk ▸ hij)).trans hjx) hj'
          · exact absurd ((hother hk).trans hix) hi'
      · exact .inr ⟨xs, hshorter, hjx, hix⟩
    · by_cases hjx : (c.interleave t xs).outcome? j = none
      · exact .inl ⟨xs, hshorter, hix, hjx⟩
      · refine (ih hix hjx).imp ?_ ?_
        · exact fun ⟨ys, hys, h⟩ ↦ ⟨ys, hys.trans hshorter, h⟩
        · exact fun ⟨ys, hys, h⟩ ↦ ⟨ys, hys.trans hshorter, h⟩

end Clients

namespace Program

variable {p : Program α} {f : α → Program β}

/-- A program of one call. -/
def Single : Program α → Prop
  | .call _ next => ∀ r, (next r).outcome? ≠ none
  | _ => False

theorem outcome?_bind (hp : p.outcome? ≠ none) (hf : ∀ a, (f a).outcome? ≠ none) :
    (p >>= f).outcome? ≠ none := by
  cases p with
  | done a => exact hf a
  | fail e => exact Option.some_ne_none _
  | call | draw => exact absurd rfl hp

theorem Single.bind (hp : p.Single) (hf : ∀ a, (f a).outcome? ≠ none) : (p >>= f).Single := by
  cases p with
  | call c next => exact fun r ↦ outcome?_bind (hp r) hf
  | done | fail | draw => exact hp.elim

/-- A program in two parts makes its next call in the first, unless that ends before it does. -/
theorem step?_bind {t : Transport σ} {s s' : σ} {q : Program β}
    (h : (p >>= f).step? t s = some (q, s')) :
    (∃ p', p.step? t s = some (p', s') ∧ q = p' >>= f) ∨
      ∃ a u, p.run t s = (.ok a, u) ∧ (f a).step? t u = some (q, s') := by
  induction p generalizing s with
  | done a => exact .inr ⟨a, s, rfl, h⟩
  | fail e => cases h
  | call c next ih =>
    cases h
    exact .inl ⟨_, rfl, rfl⟩
  | draw next ih => exact ih _ h

theorem run_of_outcome? (t : Transport σ) {o : Except Error α} (h : p.outcome? = some o) (s : σ) :
    p.run t s = (o, s) := by
  cases p with
  | done | fail =>
    cases h
    rfl
  | call | draw => cases h

theorem Single.step? (hp : p.Single) (t : Transport σ) (s : σ) :
    ∃ q, p.step? t s = some (q, (p.run t s).2) ∧ q.outcome? = some (p.run t s).1 := by
  cases p with
  | call c next =>
    obtain ⟨o, ho⟩ := Option.ne_none_iff_exists'.1 (hp (t.reply c s).1)
    have hrun : (Program.call c next).run t s = (o, (t.reply c s).2) := run_of_outcome? t ho _
    rw [hrun]
    exact ⟨next (t.reply c s).1, rfl, ho⟩
  | done | fail | draw => exact hp.elim

theorem eq_done {a : α} (h : p.outcome? = some (.ok a)) : p = .done a := by
  cases p with
  | done b =>
    cases h
    rfl
  | fail | call | draw => cases h

theorem eq_fail {e : Error} (h : p.outcome? = some (.error e)) : p = .fail e := by
  cases p with
  | fail e' =>
    cases h
    rfl
  | done | call | draw => cases h

theorem Single.step?_bind (hp : p.Single) {t : Transport σ} {s s' : σ} {a : α}
    (hrun : p.run t s = (.ok a, s')) : (p >>= f).step? t s = some (f a, s') := by
  cases p with
  | call c next =>
    obtain ⟨o, ho⟩ := Option.ne_none_iff_exists'.1 (hp (t.reply c s).1)
    rw [run, run_of_outcome? t ho] at hrun
    cases hrun
    change some ((next (t.reply c s).1) >>= f, _) = _
    rw [eq_done ho]
    rfl
  | done | fail | draw => exact hp.elim

theorem Single.outcome? (hp : p.Single) : p.outcome? = none := by
  cases p with
  | call => rfl
  | done | fail | draw => exact hp.elim

theorem Single.mapError (hp : p.Single) (g : Error → Error) : (p.mapError g).Single := by
  cases p with
  | call c next =>
    intro r
    have hnext := hp r
    change ((next r).mapError g).outcome? ≠ none
    cases hlast : next r with
    | done | fail => exact Option.some_ne_none _
    | call | draw => exact absurd (by rw [hlast]; rfl) hnext
  | done | fail | draw => exact hp.elim

end Program

namespace Gateway

variable {kind : Kind} {id : String}

theorem decode_ends (value : Json) : (decode kind value).outcome? ≠ none := by
  rw [decode]
  split <;> exact Option.some_ne_none _

theorem decodeResult_ends (operation : Operation) (found : Option Json) :
    (decodeResult kind operation found).outcome? ≠ none := by
  unfold decodeResult
  split
  · exact Option.some_ne_none _
  · exact Option.some_ne_none _
  · refine Program.outcome?_bind (decode_ends _) fun r ↦ ?_
    split <;> exact Option.some_ne_none _

theorem decodeAll_ends (values : List Json) : (decodeAll kind values).outcome? ≠ none := by
  induction values with
  | nil => exact Option.some_ne_none _
  | cons value rest ih =>
    refine Program.outcome?_bind (decode_ends value) fun r ↦ ?_
    exact Program.outcome?_bind ih fun rs ↦ Option.some_ne_none _

theorem single_get (hid : id ≠ "") : (get kind id).Single := by
  rw [get, requireId, if_neg hid]
  intro r
  cases r with
  | error e => exact Option.some_ne_none _
  | ok found =>
    cases found with
    | none => exact Option.some_ne_none _
    | some value =>
      change Program.outcome? (decode kind value >>= fun r ↦ pure (some r)) ≠ none
      exact Program.outcome?_bind (decode_ends value) fun r ↦ Option.some_ne_none _

theorem single_list (kind : Kind) (query : Query) : (list kind query).Single := by
  intro r
  cases r with
  | error e => exact Option.some_ne_none _
  | ok values => exact decodeAll_ends values

theorem single_create (kind : Kind) (r : kind.Resource) : (create kind r).Single := by
  intro r
  cases r with
  | error e => exact Option.some_ne_none _
  | ok found => exact decodeResult_ends .create found

theorem single_update (hid : id ≠ "") (r : kind.Resource) : (update kind id r).Single := by
  rw [update, requireId, if_neg hid]
  intro r
  cases r with
  | error e => exact Option.some_ne_none _
  | ok found => exact decodeResult_ends .update found

theorem single_delete (hid : id ≠ "") : (delete kind id).Single := by
  rw [delete, deleteRaw, requireId, if_neg hid]
  intro r
  cases r with
  | error e => exact Option.some_ne_none _
  | ok response =>
    change Program.outcome? (if _ then _ else _) ≠ none
    split <;> exact Option.some_ne_none _

end Gateway

section

variable {ω : Type} (t : Transport σ) (state : ω → σ) (R G : ω → ω → Prop)

/-- Whatever others change between the calls of the program, as far as `R` goes, each call of its
own leads on as far as `G` goes; and `Q` tells what it comes to from then on. A state may be seen in
several ways: `state` gives that of each view. -/
def Abides (Q : Except Error α → ω → Prop) : Program α → ω → Prop
  | .done a, w => ∀ u, R w u → Q (.ok a) u
  | .fail e, w => ∀ u, R w u → Q (.error e) u
  | .call c next, w => ∀ u, R w u → ∃ v, (t.reply c (state u)).2 = state v ∧ G u v ∧
    Abides Q (next (t.reply c (state u)).1) v
  | .draw next, w => ∀ u, R w u → ∃ v, (t.draw (state u)).2 = state v ∧ G u v ∧
    Abides Q (next (t.draw (state u)).1) v

end

namespace Abides

variable {ω : Type} {t : Transport σ} {state : ω → σ} {R G : ω → ω → Prop}
  {Q Q' : Except Error α → ω → Prop} {Q'' : Except Error β → ω → Prop} {p p' : Program α}
  {f : α → Program β} {w w' : ω}

theorem mono (h : Abides t state R G Q' p w) (hq : ∀ r u, Q' r u → Q r u) :
    Abides t state R G Q p w := by
  induction p generalizing w with
  | done | fail => exact fun u hu ↦ hq _ u (h u hu)
  | call | draw =>
    rename_i ih
    intro u hu
    obtain ⟨v, hv, hG, hnext⟩ := h u hu
    exact ⟨v, hv, hG, ih _ hnext⟩

theorem mapError {g : Error → Error} (h : Abides t state R G (fun r ↦ Q (r.mapError g)) p w) :
    Abides t state R G Q (p.mapError g) w := by
  induction p generalizing w with
  | done | fail => exact h
  | call | draw =>
    rename_i ih
    intro u hu
    obtain ⟨v, hv, hG, hnext⟩ := h u hu
    exact ⟨v, hv, hG, ih _ hnext⟩

theorem single (hp : p.Single) (h : ∀ u, R w u → ∃ r v, p.run t (state u) = (r, state v) ∧ G u v ∧
    ∀ x, R v x → Q r x) : Abides t state R G Q p w := by
  cases p with
  | done | fail | draw => exact hp.elim
  | call c next =>
    intro u hu
    obtain ⟨r, v, hrun, hG, hQ⟩ := h u hu
    have hnext := hp (t.reply c (state u)).1
    rw [Program.run] at hrun
    cases hlast : next (t.reply c (state u)).1 with
    | done | fail =>
      rw [hlast] at hrun
      obtain ⟨rfl, hv⟩ := Prod.mk.inj hrun
      exact ⟨v, hv, hG, hQ⟩
    | call | draw => exact absurd (by rw [hlast]; rfl) hnext

variable [IsPreorder ω R]

theorem later (h : Abides t state R G Q p w) (hw : R w w') : Abides t state R G Q p w' := by
  cases p with
  | done | fail | call | draw => exact fun u hu ↦ h u (trans_of R hw hu)

theorem bind (h : Abides t state R G Q p w) (he : ∀ e u, Q (.error e) u → Q'' (.error e) u)
    (hf : ∀ a u, Q (.ok a) u → Abides t state R G Q'' (f a) u) :
    Abides t state R G Q'' (p >>= f) w := by
  induction p generalizing w with
  | done a => exact hf a w (h w (refl_of R w))
  | fail e => exact fun u hu ↦ he e u (h u hu)
  | call | draw =>
    rename_i ih
    intro u hu
    obtain ⟨v, hv, hG, hnext⟩ := h u hu
    exact ⟨v, hv, hG, ih _ hnext⟩

theorem step (hp : p.Single) (h : ∀ u, R w u → ∃ a v, p.run t (state u) = (.ok a, state v) ∧
    G u v ∧ Abides t state R G Q'' (f a) v) : Abides t state R G Q'' (p >>= f) w := by
  refine bind (Q := fun r x ↦ ∃ a, r = .ok a ∧ Abides t state R G Q'' (f a) x) ?_ ?_ ?_
  · refine single hp fun u hu ↦ ?_
    obtain ⟨a, v, hrun, hG, hrest⟩ := h u hu
    exact ⟨.ok a, v, hrun, hG, fun x hx ↦ ⟨a, rfl, hrest.later hx⟩⟩
  · rintro e u ⟨a, ⟨⟩, -⟩
  · rintro a u ⟨_, ⟨⟩, hrest⟩
    exact hrest

theorem run {S : ω → ω → Prop} [IsPreorder ω S] (h : Abides t state R G Q p w)
    (hG : ∀ u v, G u v → S u v) :
    ∃ u, (p.run t (state w)).2 = state u ∧ S w u ∧ Q (p.run t (state w)).1 u := by
  induction p generalizing w with
  | done | fail => exact ⟨w, rfl, refl_of S w, h w (refl_of R w)⟩
  | call | draw =>
    rename_i ih
    obtain ⟨v, hv, hGv, hnext⟩ := h w (refl_of R w)
    obtain ⟨u, hu, hvu, hq⟩ := ih _ hnext
    rw [Program.run, hv]
    exact ⟨u, hu, trans_of S (hG _ _ hGv) hvu, hq⟩

theorem step? {S : ω → ω → Prop} [IsPreorder ω S] (h : Abides t state R G Q p w)
    (hG : ∀ u v, G u v → S u v) {s : σ} (hstep : p.step? t (state w) = some (p', s)) :
    ∃ u, s = state u ∧ S w u ∧ Abides t state R G Q p' u := by
  induction p generalizing w with
  | done | fail => cases hstep
  | call c next ih =>
    cases hstep
    obtain ⟨v, hv, hGv, hnext⟩ := h w (refl_of R w)
    exact ⟨v, hv, hG _ _ hGv, hnext⟩
  | draw next ih =>
    obtain ⟨v, hv, hGv, hnext⟩ := h w (refl_of R w)
    rw [Program.step?, hv] at hstep
    obtain ⟨u, hu, hvu, hrest⟩ := ih _ hnext hstep
    exact ⟨u, hu, trans_of S (hG _ _ hGv) hvu, hrest⟩

theorem outcome (h : Abides t state R G Q p w) {r : Except Error α} (hr : p.outcome? = some r) :
    Q r w := by
  cases p with
  | done | fail =>
    cases hr
    exact h w (refl_of R w)
  | call | draw => cases hr

def All (t : Transport σ) (state : ω → σ) (R G : ω → ω → Prop) (Q : Except Error α → ω → Prop)
    (c : Clients α σ) (w : ω) : Prop :=
  c.state = state w ∧ ∀ p ∈ c.programs, Abides t state R G Q p w

variable {c : Clients α σ}

theorem All.turn (h : All t state R G Q c w) (hG : ∀ u v, G u v → R u v) (i : Nat) :
    ∃ u, R w u ∧ All t state R G Q (c.turn t i) u := by
  obtain ⟨-, hsame⟩ | ⟨p, p', s, hp, hstep, hturn⟩ := c.turn_cases t i
  · rw [hsame]
    exact ⟨w, refl_of R w, h⟩
  · rw [h.1] at hstep
    obtain ⟨u, hu, hwu, hp'⟩ := (h.2 p (List.mem_of_getElem? hp)).step? hG hstep
    rw [hturn]
    refine ⟨u, hwu, hu, fun q hq ↦ ?_⟩
    rcases List.mem_or_eq_of_mem_set hq with hq | rfl
    · exact (h.2 q hq).later hwu
    · exact hp'

/-- Programs that abide alone abide together. -/
theorem All.interleave (h : All t state R G Q c w) (hG : ∀ u v, G u v → R u v)
    (schedule : List Nat) : ∃ u, R w u ∧ All t state R G Q (c.interleave t schedule) u := by
  induction schedule generalizing c w with
  | nil => exact ⟨w, refl_of R w, h⟩
  | cons i rest ih =>
    obtain ⟨u, hwu, hturn⟩ := h.turn hG i
    obtain ⟨v, huv, hrest⟩ := ih hturn
    exact ⟨v, trans_of R hwu huv, hrest⟩

/-- A client that draws no ids ends when no other makes a call any more. -/
theorem All.finish (h : All t state R G Q c w) (hG : ∀ u v, G u v → R u v)
    (hdraw : ∀ u v, (t.draw (state u)).2 = state v → ¬ G u v) {i : Nat}
    (hp : c.programs[i]? = some p) :
    ∃ more p', (c.interleave t more).programs = c.programs.set i p' ∧ p'.outcome? ≠ none := by
  induction p generalizing c w with
  | done | fail =>
    obtain ⟨hlt, he⟩ := List.getElem?_eq_some_iff.1 hp
    refine ⟨[], c.programs[i], (List.set_getElem_self hlt).symm, ?_⟩
    rw [he]
    exact Option.some_ne_none _
  | draw next =>
    obtain ⟨v, hv, hGv, -⟩ := h.2 _ (List.mem_of_getElem? hp) w (refl_of R w)
    exact absurd hGv (hdraw w v hv)
  | call call next ih =>
    have hturn := Clients.turn_call (t := t) hp
    obtain ⟨u, -, hall⟩ := h.turn hG i
    have hi : (c.turn t i).programs[i]? = some (next (t.reply call c.state).1) := by
      obtain ⟨hlt, -⟩ := List.getElem?_eq_some_iff.1 hp
      rw [hturn]
      exact List.getElem?_set_self hlt
    obtain ⟨more, p', hmore, hp'⟩ := ih _ hall hi
    refine ⟨i :: more, p', ?_, hp'⟩
    rw [Clients.interleave, List.foldl_cons, ← Clients.interleave, hmore, hturn, List.set_set]

/-- The clients come to their ends one after the other, in the order in which they stand. -/
theorem All.finish_first (h : All t state R G Q c w) (hG : ∀ u v, G u v → R u v)
    (hdraw : ∀ u v, (t.draw (state u)).2 = state v → ¬ G u v) (k : Nat) :
    ∃ more, ∀ i < k, ∀ p, (c.interleave t more).programs[i]? = some p → p.outcome? ≠ none := by
  induction k with
  | zero => exact ⟨[], fun i hi ↦ absurd hi (Nat.not_lt_zero i)⟩
  | succ k ih =>
    obtain ⟨xs, hxs⟩ := ih
    obtain ⟨u, -, hall⟩ := h.interleave hG xs
    cases hk : (c.interleave t xs).programs[k]? with
    | none =>
      refine ⟨xs, fun i hi p hp ↦ ?_⟩
      rcases Nat.lt_succ_iff_lt_or_eq.1 hi with hi | rfl
      · exact hxs i hi p hp
      · cases hk.symm.trans hp
    | some q =>
      obtain ⟨ys, q', hys, hq'⟩ := hall.finish hG hdraw hk
      refine ⟨xs ++ ys, fun i hi p hp ↦ ?_⟩
      rw [Clients.interleave_append, hys] at hp
      rcases Nat.lt_succ_iff_lt_or_eq.1 hi with hi | rfl
      · rw [List.getElem?_set_ne (by omega)] at hp
        exact hxs i hi p hp
      · obtain ⟨hlt, -⟩ := List.getElem?_eq_some_iff.1 hk
        rw [List.getElem?_set_self hlt] at hp
        cases hp
        exact hq'

theorem All.exists_end (h : All t state R G Q c w) (hG : ∀ u v, G u v → R u v)
    (hdraw : ∀ u v, (t.draw (state u)).2 = state v → ¬ G u v) :
    ∃ more, ∀ p ∈ (c.interleave t more).programs, p.outcome? ≠ none := by
  obtain ⟨more, hmore⟩ := h.finish_first hG hdraw c.programs.length
  refine ⟨more, fun p hp ↦ ?_⟩
  obtain ⟨i, hi⟩ := List.getElem?_of_mem hp
  obtain ⟨hlt, -⟩ := List.getElem?_eq_some_iff.1 hi
  rw [Clients.length_interleave] at hlt
  exact hmore i hlt p hi

end Abides

end TrafficSteering
