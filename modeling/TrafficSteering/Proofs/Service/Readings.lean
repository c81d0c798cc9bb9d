import Mathlib.Data.List.Forall2
import TrafficSteering.Proofs.Service.Replies

namespace TrafficSteering

open Json

variable {α β : Type} {ids : Nat → String} {kind : Kind} {m : Memory} {id : String}
  {resources found : List kind.Resource}

def Tells (ids : Nat → String) (m : Memory) (p : Program α) (x : Except Error α) : Prop :=
  p.run (Memory.transport ids) m = (x, m)

namespace Tells

variable {p : Program α} {f : α → Program β} {a : α} {x : Except Error β} {e : Error}

theorem done (a : α) : Tells ids m (pure a) (.ok a) := rfl

theorem fail (e : Error) : Tells ids m (.fail e : Program α) (.error e) := rfl

theorem bind (hp : Tells ids m p (.ok a)) (hf : Tells ids m (f a) x) :
    Tells ids m (p >>= f) x := by
  have hrun := Program.run_bind (Memory.transport ids) p f m
  rw [hp] at hrun
  exact hrun.trans hf

theorem stop (hp : Tells ids m p (.error e)) : Tells ids m (p >>= f) (.error e) := by
  have hrun := Program.run_bind (Memory.transport ids) p f m
  rw [hp] at hrun
  exact hrun

theorem call {c : Call} {r : c.Reply} {next : c.Reply → Program β}
    (hreply : Memory.reply ids c m = (r, m)) (hnext : Tells ids m (next r) x) :
    Tells ids m (.call c next) x := by
  change (next (Memory.reply ids c m).1).run _ (Memory.reply ids c m).2 = _
  rw [hreply]
  exact hnext

end Tells

theorem exists_of_forall₂ {R : α → β → Prop} {l : List α} {l' : List β}
    (h : List.Forall₂ R l l') {a : α} (ha : a ∈ l) : ∃ b ∈ l', R a b := by
  obtain ⟨i, hi, rfl⟩ := List.getElem_of_mem ha
  exact ⟨_, List.getElem_mem (h.length_eq ▸ hi), h.get hi (h.length_eq ▸ hi)⟩

/-- What is stored of a kind is read as these resources, in the order of creation. -/
def Memory.Keeps (m : Memory) (kind : Kind) (resources : List kind.Resource) : Prop :=
  List.Forall₂ (fun value r ↦ kind.decode value = .ok r) (m.snapshot kind) resources

def Memory.Reads (m : Memory) (kind : Kind) (id : String) (r : kind.Resource) : Prop :=
  ∃ value, (m.collections.get kind).get? id = some value ∧ kind.decode (ofObject value) = .ok r

theorem Service.keeps (s : Service) (failures : List Failure) (kind : Kind) :
    (s.memory failures).Keeps kind (s.get kind) := by
  rw [Memory.Keeps, Memory.snapshot, Service.get_memory, Collection.values, Kind.written,
    List.map_map, List.map_map, List.forall₂_map_left_iff]
  exact List.forall₂_same.2 fun r _ ↦ kind.decode_encode r

theorem exists_forall₂_filter {R : α → β → Prop} {l : List α} {l' : List β}
    (h : List.Forall₂ R l l') (p : α → Bool) :
    ∃ l'', l''.Sublist l' ∧ List.Forall₂ R (l.filter p) l'' := by
  induction h with
  | nil => exact ⟨[], .slnil, .nil⟩
  | @cons a b l l' hab _ ih =>
    obtain ⟨l'', hsub, hall⟩ := ih
    cases hp : p a with
    | true =>
      rw [List.filter_cons_of_pos hp]
      exact ⟨b :: l'', hsub.cons_cons b, .cons hab hall⟩
    | false =>
      rw [List.filter_cons_of_neg (Bool.eq_false_iff.1 hp)]
      exact ⟨l'', hsub.cons b, hall⟩

theorem Collection.exists_get? {c : Collection} (h : id ∈ c.keys) :
    ∃ value ∈ c.values, c.get? id = some value := by
  cases hget : c.get? id with
  | none =>
    obtain ⟨e, he, rfl⟩ := List.mem_map.1 h
    exact absurd (List.lookup_eq_none_iff.1 hget e he) (by simp)
  | some value =>
    obtain ⟨l₁, l₂, rfl, -⟩ := List.lookup_eq_some_iff.1 hget
    exact ⟨value, by simp [values], rfl⟩

theorem Memory.reply_get (hcalm : m.failures = []) (kind : Kind) (id : String) :
    Memory.reply ids (.get kind id) m =
      (.ok (((m.collections.get kind).get? id).map ofObject), m) := by
  rw [reply, get, takeFailure_calm hcalm]

theorem Memory.reply_list (hcalm : m.failures = []) (kind : Kind) (query : Query) :
    Memory.reply ids (.list kind query) m =
      (.ok (((m.collections.get kind).values.filter (satisfies · query)).map ofObject), m) := by
  rw [reply, list, takeFailure_calm hcalm]

theorem Gateway.decodeAll_forall₂ {values : List Json}
    (h : List.Forall₂ (fun value r ↦ kind.decode value = .ok r) values resources) :
    Gateway.decodeAll kind values = .done resources := by
  induction h with
  | nil => rfl
  | cons hr _ ih =>
    rw [Gateway.decodeAll, Gateway.decode, hr, ih]
    rfl

namespace Tells

theorem listed (hcalm : m.failures = []) {query : Query}
    (h : List.Forall₂ (fun value r ↦ kind.decode value = .ok r)
      (((m.collections.get kind).values.filter (Memory.satisfies · query)).map ofObject) found) :
    Tells ids m (Gateway.list kind query) (.ok found) := by
  refine call (Memory.reply_list hcalm kind query) ?_
  simp only [Program.done_bind, Gateway.decodeAll_forall₂ h]
  exact done found

theorem listAll (hcalm : m.failures = []) (h : m.Keeps kind resources) :
    Tells ids m (Gateway.list kind []) (.ok resources) := by
  refine listed hcalm ?_
  have hall : (m.collections.get kind).values.filter (Memory.satisfies · []) =
      (m.collections.get kind).values := List.filter_eq_self.2 fun _ _ ↦ rfl
  rwa [hall]

theorem list (hcalm : m.failures = []) (h : m.Keeps kind resources) (query : Query) :
    ∃ found, found.Sublist resources ∧ Tells ids m (Gateway.list kind query) (.ok found) := by
  rw [Memory.Keeps, Memory.snapshot, List.forall₂_map_left_iff] at h
  obtain ⟨found, hsub, hfound⟩ := exists_forall₂_filter h (Memory.satisfies · query)
  exact ⟨found, hsub, listed hcalm (List.forall₂_map_left_iff.2 hfound)⟩

theorem get_absent (hcalm : m.failures = []) (hid : id ≠ "")
    (h : id ∉ (m.collections.get kind).keys) : Tells ids m (Gateway.get kind id) (.ok none) := by
  have hnone : (m.collections.get kind).get? id = none := Entries.lookup_eq_none_of_notMem h
  rw [Gateway.get, Gateway.requireId, if_neg hid]
  refine call (Memory.reply_get hcalm kind id) ?_
  rw [hnone]
  exact done none

theorem get_reads {r : kind.Resource} (hcalm : m.failures = []) (hid : id ≠ "")
    (h : m.Reads kind id r) : Tells ids m (Gateway.get kind id) (.ok (some r)) := by
  obtain ⟨value, hget, hr⟩ := h
  rw [Gateway.get, Gateway.requireId, if_neg hid]
  refine call (Memory.reply_get hcalm kind id) ?_
  simp only [hget, Option.map_some, Program.done_bind, Gateway.decode, hr]
  exact done (some r)

theorem get_stored (ids : Nat → String) (hcalm : m.failures = []) (hid : id ≠ "")
    (hkeeps : m.Keeps kind resources) (h : id ∈ (m.collections.get kind).keys) :
    ∃ r ∈ resources, Tells ids m (Gateway.get kind id) (.ok (some r)) := by
  obtain ⟨value, hvalue, hget⟩ := Collection.exists_get? h
  obtain ⟨r, hr, hread⟩ := exists_of_forall₂ hkeeps (List.mem_map_of_mem hvalue)
  exact ⟨r, hr, get_reads hcalm hid ⟨value, hget, hread⟩⟩

end Tells

end TrafficSteering
