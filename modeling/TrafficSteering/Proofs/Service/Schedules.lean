import Mathlib.Algebra.GroupWithZero.Nat
import TrafficSteering.Proofs.Service.Arrivals

namespace TrafficSteering

open Json

namespace Failure

def Concerns (kind : Kind) (operation : Operation) (f : Failure) : Prop :=
  f.kind = kind ∧ f.operation = operation

instance (kind : Kind) (operation : Operation) : DecidablePred (Concerns kind operation) :=
  fun _ ↦ inferInstanceAs (Decidable (_ ∧ _))

def among (kind : Kind) (operation : Operation) (l : List Failure) : List Failure :=
  l.filter (Concerns kind operation)

/-- The number of the call that the entry at `k` makes fail. -/
def due (l : List Failure) (k : Nat) : Nat := ((l.take (k + 1)).map skip).sum + k

/-- The second entry waits for the first. -/
example (kind : Kind) (operation : Operation) (status : Option Nat) :
    [0, 1].map (due [⟨kind, operation, 1, status⟩, ⟨kind, operation, 2, status⟩]) = [1, 4] := rfl

def tick : List Failure → Option Failure × List Failure
  | [] => (none, [])
  | f :: rest =>
    match f.skip with
    | 0 => (some f, rest)
    | skip + 1 => (none, { f with skip } :: rest)

variable {kind k : Kind} {operation o : Operation}

theorem among_cons_of_pos {f : Failure} (hf : Concerns kind operation f) (l : List Failure) :
    among kind operation (f :: l) = f :: among kind operation l :=
  List.filter_cons_of_pos (decide_eq_true hf)

theorem among_cons_of_neg {f : Failure} (hf : ¬ Concerns kind operation f) (l : List Failure) :
    among kind operation (f :: l) = among kind operation l :=
  List.filter_cons_of_neg (by simpa using hf)

theorem take_among (kind : Kind) (operation : Operation) (l : List Failure) :
    ((take kind operation l).1, among kind operation (take kind operation l).2) =
      tick (among kind operation l) := by
  induction l with
  | nil => rfl
  | cons f rest ih =>
    by_cases hf : f.kind = kind ∧ f.operation = operation
    · have hcounted (n : Nat) : Concerns kind operation { f with skip := n } := hf
      rw [take, if_pos hf, among_cons_of_pos (f := f) hf, tick]
      cases f.skip with
      | zero => rfl
      | succ n => exact congrArg (Prod.mk none) (among_cons_of_pos (hcounted n) rest)
    · rw [take, if_neg hf, among_cons_of_neg (f := f) hf rest, ← ih]
      exact congrArg (Prod.mk _) (among_cons_of_neg hf _)

theorem among_take_of_ne (h : ¬ (k = kind ∧ o = operation)) (l : List Failure) :
    among kind operation (take k o l).2 = among kind operation l := by
  induction l with
  | nil => rfl
  | cons f rest ih =>
    rw [take]
    split
    · rename_i hf
      have hother (n : Nat) : ¬ Concerns kind operation { f with skip := n } :=
        fun hn ↦ h ⟨hf.1.symm.trans hn.1, hf.2.symm.trans hn.2⟩
      rw [among_cons_of_neg (hother f.skip)]
      cases f.skip with
      | zero => rfl
      | succ n => exact among_cons_of_neg (hother n) rest
    · by_cases hf : Concerns kind operation f
      · exact (among_cons_of_pos hf _).trans (ih ▸ (among_cons_of_pos hf rest).symm)
      · exact (among_cons_of_neg hf _).trans (ih.trans (among_cons_of_neg hf rest).symm)

def after : Nat → List Failure → List Failure
  | 0, l => l
  | j + 1, l => after j (tick l).2

theorem after_nil (j : Nat) : after j [] = [] := by
  induction j with
  | zero => rfl
  | succ j ih => exact ih

theorem due_cons_succ (f : Failure) (l : List Failure) (n : Nat) :
    due (f :: l) (n + 1) = f.skip + due l n + 1 := by
  simp only [due, List.take_succ_cons, List.map_cons, List.sum_cons]
  omega

theorem due_cons_zero (f : Failure) (l : List Failure) : due (f :: l) 0 = f.skip := by
  simp [due]

/-- A call brings every entry that it does not use up one call nearer. -/
theorem due_counted (f : Failure) (l : List Failure) {n : Nat} (hf : f.skip = n + 1) (k : Nat) :
    due (f :: l) k = due ({ f with skip := n } :: l) k + 1 := by
  cases k with
  | zero => rw [due_cons_zero, due_cons_zero, hf]
  | succ k =>
    rw [due_cons_succ, due_cons_succ, hf]
    exact congrArg (· + 1) (Nat.add_right_comm n 1 (due l k))

theorem tick_due {l : List Failure} {k : Nat} {f : Failure} (hk : l[k]? = some f) :
    tick (after (due l k) l) = (some { f with skip := 0 }, l.drop (k + 1)) := by
  -- induction on the number of calls to come; one that is let through brings the entry nearer
  generalize hj : due l k = j
  induction j generalizing l k f with
  | zero =>
    obtain _ | ⟨first, rest⟩ := l
    · cases hk
    cases k with
    | zero =>
      obtain rfl := Option.some.inj hk
      have hskip : first.skip = 0 := (due_cons_zero first rest).symm.trans hj
      rw [after, tick, hskip]
      exact congrArg (fun n ↦ (some { first with skip := n }, rest)) hskip
    | succ k =>
      rw [due_cons_succ] at hj
      cases hj
  | succ j ih =>
    obtain _ | ⟨first, rest⟩ := l
    · cases hk
    rw [after, tick]
    cases hskip : first.skip with
    | zero =>
      cases k with
      | zero =>
        rw [due_cons_zero, hskip] at hj
        cases hj
      | succ k =>
        rw [due_cons_succ, hskip, Nat.zero_add] at hj
        exact ih hk (Nat.succ.inj hj)
    | succ n =>
      rw [due_counted first rest hskip] at hj
      cases k with
      | zero =>
        obtain rfl := Option.some.inj hk
        have hfirst : ({ first with skip := n } :: rest)[0]? = some { first with skip := n } := rfl
        exact ih (f := { first with skip := n }) hfirst (Nat.succ.inj hj)
      | succ k =>
        have hlater : ({ first with skip := n } :: rest)[k + 1]? = some f := hk
        exact ih hlater (Nat.succ.inj hj)

theorem tick_undue {l : List Failure} {j : Nat} (h : ∀ k < l.length, j ≠ due l k) :
    (tick (after j l)).1 = none := by
  induction j generalizing l with
  | zero =>
    cases l with
    | nil => rfl
    | cons first rest =>
      have hskip : first.skip ≠ 0 := fun hz ↦
        h 0 (Nat.zero_lt_succ _) (hz ▸ (due_cons_zero first rest).symm)
      obtain ⟨n, hn⟩ := Nat.exists_eq_succ_of_ne_zero hskip
      rw [after, tick, hn]
  | succ j ih =>
    cases l with
    | nil => rw [after_nil]; rfl
    | cons first rest =>
      rw [after, tick]
      cases hskip : first.skip with
      | zero =>
        refine ih fun k hk hj ↦ h (k + 1) (Nat.succ_lt_succ hk) ?_
        rw [due_cons_succ, hskip, hj, Nat.zero_add]
      | succ n =>
        refine ih fun k hk hj ↦ h k hk ?_
        rw [due_counted first rest hskip, hj]

end Failure

namespace Call

def Alike (c d : Call) : Prop := d.kind = c.kind ∧ d.operation = c.operation

instance (c : Call) : DecidablePred c.Alike := fun _ ↦ inferInstanceAs (Decidable (_ ∧ _))

end Call

theorem Failure.text_ne {s : String} (h : s.toList.head? ≠ some 'i') (kind : Kind)
    (operation : Operation) : s ≠ Failure.text kind operation := by
  rintro rfl
  exact h (by simp [Failure.text, String.toList_append])

namespace Memory

variable {ids : Nat → String} {m : Memory} {c : Call} {rest : List Failure}

theorem reply_spared (h : Failure.take c.kind c.operation m.failures = (none, rest)) :
    reply ids c m = ((reply ids c { m with failures := [] }).1,
      { (reply ids c { m with failures := [] }).2 with failures := rest }) := by
  have hspared : m.takeFailure c.kind c.operation = (none, { m with failures := rest }) := by
    rw [takeFailure, h]
  have hcalm := takeFailure_calm (m := { m with failures := [] }) rfl
  cases c with
  | create kind body =>
    rw [Call.kind, Call.operation] at hspared
    simp only [reply, create, hspared, hcalm]
    cases body.object? <;> rfl
  | get kind id =>
    rw [Call.kind, Call.operation] at hspared
    simp only [reply, get, hspared, hcalm]
  | list kind query =>
    rw [Call.kind, Call.operation] at hspared
    simp only [reply, list, hspared, hcalm]
  | update kind id body =>
    rw [Call.kind, Call.operation] at hspared
    simp only [reply, update, hspared, hcalm]
    split <;> rfl
  | delete kind id =>
    rw [Call.kind, Call.operation] at hspared
    simp only [reply, delete, hspared, hcalm]
    split <;> rfl

theorem notAnObject_ne (kind : Kind) (body : Json) (operation : Operation) :
    (notAnObject kind body).message ≠ Failure.text kind operation := by
  refine Failure.text_ne ?_ kind operation
  simp [notAnObject, toString, String.toList_append]

theorem absentText_ne (kind : Kind) (id : String) (operation : Operation) :
    absentText kind id ≠ Failure.text kind operation := by
  refine Failure.text_ne ?_ kind operation
  cases kind <;> simp [absentText, toString, String.toList_append, Kind.displayName]

theorem inUseText_ne (kind : Kind) (id : String) (owner : Kind × String) (operation : Operation) :
    inUseText kind id owner ≠ Failure.text kind operation := by
  refine Failure.text_ne ?_ kind operation
  cases kind <;> simp [inUseText, toString, String.toList_append, Kind.displayName]

theorem response_ne_refused (kind : Kind) (id : String) (f : Failure) {response : ActionResponse}
    (h : response.fault ≠ some (Failure.text kind .delete)) :
    (.ok response : (Call.delete kind id).Reply) ≠ (Call.delete kind id).refused f := by
  rw [Call.refused]
  cases f.status with
  | none =>
    intro hr
    injection hr
  | some code =>
    intro hr
    injection hr with hr
    exact h (congrArg ActionResponse.fault hr)

/-- No answer that is given without a schedule looks like a failure of the schedule. -/
theorem reply_ne_refused (h : m.failures = []) (f : Failure) : (reply ids c m).1 ≠ c.refused f := by
  -- a scheduled failure has a message of its own, which no other answer begins with
  have hcalm := takeFailure_calm h
  cases c with
  | create kind body =>
    simp only [reply, create, hcalm]
    split
    · intro hr
      injection hr with hr
      exact notAnObject_ne kind body .create (congrArg TransportError.message hr)
    · intro hr
      injection hr
  | get kind id =>
    simp only [reply, get, hcalm]
    intro hr
    injection hr
  | list kind query =>
    simp only [reply, list, hcalm]
    intro hr
    injection hr
  | update kind id body =>
    simp only [reply, update, hcalm]
    split
    · intro hr
      injection hr with hr
      exact notAnObject_ne kind body .update (congrArg TransportError.message hr)
    · intro hr
      injection hr with hr
      exact absentText_ne kind id .update (congrArg TransportError.message hr)
    · intro hr
      injection hr
  | delete kind id =>
    simp only [reply, delete, hcalm]
    split
    · exact response_ne_refused kind id f (mt Option.some.inj (inUseText_ne _ _ _ _))
    · exact response_ne_refused kind id f (mt Option.some.inj (absentText_ne _ _ _))
    · exact response_ne_refused kind id f (Option.some_ne_none _).symm

/-- A call leaves the schedule as it finds it after one more call. -/
theorem failures_replied (ids : Nat → String) (c : Call) (m : Memory) :
    (reply ids c m).2.failures = (Failure.take c.kind c.operation m.failures).2 := by
  rcases h : Failure.take c.kind c.operation m.failures with ⟨_ | f, rest⟩
  · rw [reply_spared h]
  · have hhit : m.takeFailure c.kind c.operation = (some f, { m with failures := rest }) := by
      rw [takeFailure, h]
    rw [reply_refused hhit]

theorem among_moved (ids : Nat → String) (c : Call) (before : List Call) (m : Memory) :
    Failure.among c.kind c.operation (moved ids (before.map .call) m).failures =
      Failure.after (before.countP fun d ↦ c.Alike d)
        (Failure.among c.kind c.operation m.failures) := by
  induction before generalizing m with
  | nil => rfl
  | cons d rest ih =>
    have hrun : moved ids ((d :: rest).map .call) m =
        moved ids (rest.map .call) (reply ids d m).2 := rfl
    rw [hrun, ih, failures_replied]
    by_cases hd : c.Alike d
    · have htick := Failure.take_among c.kind c.operation m.failures
      rw [List.countP_cons_of_pos (by simpa using hd), Failure.after, ← htick, hd.1, hd.2]
    · rw [List.countP_cons_of_neg (by simpa using hd), Failure.among_take_of_ne hd]

theorem among_replied (ids : Nat → String) (c : Call) (m : Memory) :
    Failure.among c.kind c.operation (reply ids c m).2.failures =
      (Failure.tick (Failure.among c.kind c.operation m.failures)).2 := by
  rw [failures_replied, ← Failure.take_among]

theorem reply_due (ids : Nat → String) {l : List Failure} {k : Nat} {f : Failure}
    (hk : l[k]? = some f)
    (h : Failure.among c.kind c.operation m.failures = Failure.after (Failure.due l k) l) :
    reply ids c m = (c.refused f, { m with failures := (reply ids c m).2.failures }) ∧
      Failure.among c.kind c.operation (reply ids c m).2.failures = l.drop (k + 1) := by
  have htick := Failure.tick_due hk
  rw [← h] at htick
  have hhit : (Failure.take c.kind c.operation m.failures).1 = some { f with skip := 0 } :=
    congrArg Prod.fst ((Failure.take_among c.kind c.operation m.failures).trans htick)
  refine ⟨?_, (among_replied ids c m).trans (congrArg Prod.snd htick)⟩
  have htake : m.takeFailure c.kind c.operation = (some { f with skip := 0 },
      { m with failures := (Failure.take c.kind c.operation m.failures).2 }) :=
    Prod.ext hhit rfl
  have hrefused : c.refused { f with skip := 0 } = c.refused f := by cases c <;> rfl
  rw [reply_refused htake, hrefused]

theorem reply_undue (ids : Nat → String) {l : List Failure} {j : Nat}
    (hj : ∀ k < l.length, j ≠ Failure.due l k)
    (h : Failure.among c.kind c.operation m.failures = Failure.after j l) :
    reply ids c m = ((reply ids c { m with failures := [] }).1,
      { (reply ids c { m with failures := [] }).2 with
        failures := (reply ids c m).2.failures }) := by
  have htick := Failure.take_among c.kind c.operation m.failures
  rw [h] at htick
  have hspared : (Failure.take c.kind c.operation m.failures).1 = none :=
    (congrArg Prod.fst htick).trans (Failure.tick_undue hj)
  rw [reply_spared (Prod.ext hspared rfl)]

theorem moved_queued (ids : Nat → String) (m : Memory) (queued : List Failure) :
    moved ids (queued.map .failAfter) m = { m with failures := m.failures ++ queued } := by
  induction queued generalizing m with
  | nil => rw [List.append_nil]; rfl
  | cons f rest ih =>
    have hrun : moved ids ((f :: rest).map .failAfter) m =
        moved ids (rest.map .failAfter) (m.failAfter f) := rfl
    rw [hrun, ih, failAfter, List.append_assoc, List.singleton_append]

/-- Of the calls with one kind and operation, exactly those fail whose number is due for an entry,
each with the status of its entry and with nothing changed; all the others are answered as if there
was no schedule. -/
theorem fails_on_schedule (ids : Nat → String) (m : Memory) (queued : List Failure)
    (before : List Call) (c : Call) :
    let n := moved ids (queued.map .failAfter ++ before.map .call) m
    let next := (reply ids c n).2
    let j := before.countP fun d ↦ c.Alike d
    let entries := Failure.among c.kind c.operation (m.failures ++ queued)
    (∀ k f, entries[k]? = some f →
      ((reply ids c n).1 = c.refused f ∧
          Failure.among c.kind c.operation next.failures = entries.drop (k + 1) ↔
        j = Failure.due entries k) ∧
      (j = Failure.due entries k → next = { n with failures := next.failures })) ∧
    ((∀ k < entries.length, j ≠ Failure.due entries k) →
      (∀ f, (reply ids c n).1 ≠ c.refused f) ∧
        (reply ids c n).1 = (reply ids c { n with failures := [] }).1 ∧
        next = { (reply ids c { n with failures := [] }).2 with failures := next.failures }) := by
  intro n next j entries
  have hmoved : Failure.among c.kind c.operation n.failures = Failure.after j entries := by
    have hrun : n = moved ids (before.map .call) (moved ids (queued.map .failAfter) m) :=
      List.foldl_append
    rw [hrun, among_moved, moved_queued]
  -- the calls so far have counted down the entries, and none but those, for this kind and operation
  have hundue (hj : ∀ k < entries.length, j ≠ Failure.due entries k) :
      (∀ f, (reply ids c n).1 ≠ c.refused f) ∧
        (reply ids c n).1 = (reply ids c { n with failures := [] }).1 ∧
        next = { (reply ids c { n with failures := [] }).2 with failures := next.failures } := by
    have hreply := reply_undue ids hj hmoved
    have hanswer := congrArg Prod.fst hreply
    exact ⟨fun f hf ↦ reply_ne_refused rfl f (hanswer.symm.trans hf), hanswer,
      congrArg Prod.snd hreply⟩
  refine ⟨fun k f hk ↦ ⟨⟨fun ⟨hfailed, hleft⟩ ↦ ?_, fun hj ↦ ?_⟩, fun hj ↦ ?_⟩, hundue⟩
  · -- some entry is due, and the number of those that are left tells which
    obtain ⟨i, hi, hj⟩ : ∃ i < entries.length, j = Failure.due entries i := by
      by_contra hnone
      exact (hundue fun i hi hj ↦ hnone ⟨i, hi, hj⟩).1 f hfailed
    have hdrop := (reply_due ids (List.getElem?_eq_getElem hi) (hj ▸ hmoved)).2
    have hlength := congrArg List.length (hdrop.symm.trans hleft)
    rw [List.length_drop, List.length_drop] at hlength
    obtain ⟨hk, -⟩ := List.getElem?_eq_some_iff.1 hk
    obtain rfl : i = k := by omega
    exact hj
  · obtain ⟨hreply, hleft⟩ := reply_due ids hk (hj ▸ hmoved)
    exact ⟨congrArg Prod.fst hreply, hleft⟩
  · exact congrArg Prod.snd (reply_due ids hk (hj ▸ hmoved)).1

def appointments : List Failure :=
  [{ kind := .port, operation := .get, skip := 1, status := none },
    { kind := .portChain, operation := .list, status := some 503 },
    { kind := .port, operation := .get, skip := 1, status := some 500 }]

def visits : List Call :=
  [.get .port "a", .list .portChain [], .get .port "b", .get .portPair "a", .get .port "a"]

theorem fails_on_schedule_visits :
    (reply numberedId (.get .port "a") (moved numberedId
      (appointments.map .failAfter ++ visits.map .call) {})).1 =
        .error { status := some 500, message := "injected Get Port failure" } := by
  have hsecond : (Failure.among .port .get ([] ++ appointments))[1]? =
      some { kind := .port, operation := .get, skip := 1, status := some 500 } := by decide
  have hfails := fails_on_schedule numberedId {} appointments visits (.get .port "a")
  exact ((hfails.1 1 _ hsecond).1.2 (by decide)).1

end Memory

end TrafficSteering
