import TrafficSteering.Gateway
import TrafficSteering.Proofs.Service.Outcome
import TrafficSteering.Proofs.Service.Sound

namespace TrafficSteering

open Json

namespace Gateway

variable {kind : Kind} {r : kind.Resource}

theorem decode_written (r : kind.Resource) : decode kind (ofObject (kind.encode r)) = .done r := by
  rw [decode, kind.decode_encode]

theorem decodeAll_written (l : List kind.Resource) :
    decodeAll kind (l.map fun r ↦ ofObject (kind.encode r)) = .done l := by
  induction l with
  | nil => rfl
  | cons r rest ih => rw [List.map_cons, decodeAll, decode_written, ih]; rfl

theorem decodeResult_object {value : Object} (operation : Operation)
    (hr : kind.decode (ofObject value) = .ok r) (h : kind.idOf r ≠ none) :
    decodeResult kind operation (some (ofObject value)) = .done r := by
  have hid : (kind.idOf r).isNone = false :=
    Option.isNone_eq_false_iff.2 (Option.isSome_iff_ne_none.2 h)
  have hresult : decodeResult kind operation (some (ofObject value)) =
      (decode kind (ofObject value)).bind fun resource ↦
        if (kind.idOf resource).isNone then .fail (nullResult kind operation)
        else .done resource := rfl
  rw [hresult, decode, hr, Program.done_bind, hid]
  rfl

theorem decodeResult_written (operation : Operation) (h : kind.idOf r ≠ none) :
    decodeResult kind operation (some (ofObject (kind.encode r))) = .done r :=
  decodeResult_object operation (kind.decode_encode r) h

end Gateway

def Call.refused (f : Failure) : (c : Call) → c.Reply
  | .create kind _ => .error (Memory.failed kind .create f)
  | .get kind _ => .error (Memory.failed kind .get f)
  | .list kind _ => .error (Memory.failed kind .list f)
  | .update kind _ _ => .error (Memory.failed kind .update f)
  | .delete kind _ =>
    match f.status with
    | some code => .ok (.failure code (Failure.text kind .delete))
    | none => .error (Memory.failed kind .delete f)

variable {ids : Nat → String} {faults : Faults} {s t : Service} {kind : Kind} {id : String}
  {l₁ l₂ : List kind.Resource} {r : kind.Resource} {failures rest : List Failure}

/-- Undisturbed, the call is answered with `r` and takes `s` to `t`. -/
def Answers (ids : Nat → String) (c : Call) (s : Service) (r : c.Reply) (t : Service) : Prop :=
  ∀ failures rest, Failure.take c.kind c.operation failures = (none, rest) →
    Memory.reply ids c (s.memory failures) = (r, t.memory rest)

theorem takeFailure_memory (kind : Kind) (operation : Operation) {hit : Option Failure}
    (h : Failure.take kind operation failures = (hit, rest)) :
    (s.memory failures).takeFailure kind operation = (hit, s.memory rest) := by
  rw [Memory.takeFailure, show (s.memory failures).failures = failures from rfl, h]
  rfl

theorem Memory.reply_refused {m n : Memory} {c : Call} {f : Failure}
    (h : m.takeFailure c.kind c.operation = (some f, n)) : reply ids c m = (c.refused f, n) := by
  cases c with
  | create kind body =>
    rw [Call.kind, Call.operation] at h
    rw [reply, create, h, Call.refused]
  | get kind id =>
    rw [Call.kind, Call.operation] at h
    rw [reply, get, h, Call.refused]
  | list kind query =>
    rw [Call.kind, Call.operation] at h
    rw [reply, list, h, Call.refused]
  | update kind id body =>
    rw [Call.kind, Call.operation] at h
    rw [reply, update, h, Call.refused]
  | delete kind id =>
    rw [Call.kind, Call.operation] at h
    rw [reply, delete, h, Call.refused]
    cases hstatus : f.status <;> simp only [hstatus]

theorem transport_reply (c : Call) (m : Memory) :
    (Memory.transport ids).reply c m = Memory.reply ids c m := rfl

theorem Ends.call {α : Type} {c : Call} {x : c.Reply} {next : c.Reply → Program α}
    {E : Error → Service → Prop} {Q : α → Service → Prop} (hcalm : Answers ids c s x t)
    (hrefused : ∀ f, faults c.kind c.operation f.status →
      Ends ids faults (next (c.refused f)) s E Q)
    (hnext : Ends ids faults (next x) t E Q) : Ends ids faults (.call c next) s E Q := by
  intro failures hfailures
  obtain ⟨hcovers, hhit⟩ := hfailures.take c.kind c.operation
  rcases htake : Failure.take c.kind c.operation failures with ⟨_ | f, rest⟩
  · have hrun : (Program.call c next).run (Memory.transport ids) (s.memory failures) =
        (next x).run (Memory.transport ids) (t.memory rest) := by
      rw [Program.run, transport_reply, hcalm failures rest htake]
    rw [hrun]
    exact hnext rest (by rwa [htake] at hcovers)
  · have hrun : (Program.call c next).run (Memory.transport ids) (s.memory failures) =
        (next (c.refused f)).run (Memory.transport ids) (s.memory rest) := by
      rw [Program.run, transport_reply, Memory.reply_refused (takeFailure_memory _ _ htake)]
    rw [hrun]
    exact hrefused f (hhit f (by rw [htake]; rfl)) rest (by rwa [htake] at hcovers)

namespace Service

theorem get_memory (s : Service) (failures : List Failure) (kind : Kind) :
    (s.memory failures).collections.get kind = kind.written (s.get kind) :=
  Inventory.get_collections _ _

theorem store_memory_new (kind : Kind) (r : kind.Resource) (failures : List Failure)
    (hne : ∀ x ∈ s.get kind, kind.key x ≠ kind.key r) :
    (s.memory failures).store kind (kind.key r) (kind.encode r) =
      (s.put kind (s.get kind ++ [r])).memory failures := by
  rw [memory_put, ← Kind.insert_written_new hne rfl, Memory.store, get_memory]
  rfl

theorem object?_body (kind : Kind) (r : kind.Resource) :
    (Gateway.body kind r).object? = some (kind.encode (kind.clearServerFields r)) := by
  rw [Gateway.body, ofObject, object?, Dict.ofList_entries]

theorem answers_get (s : Service) (kind : Kind) (id : String) :
    Answers ids (.get kind id) s
      (.ok ((s.find? kind id).map fun r ↦ ofObject (kind.encode r))) s := by
  intro failures rest h
  rw [Memory.reply, Memory.get, takeFailure_memory kind .get h]
  simp only [get_memory, Kind.get?_written, Option.map_map]
  rfl

theorem answers_list (s : Service) (kind : Kind) (query : Query) :
    Answers ids (.list kind query) s
      (.ok (((s.get kind).filter fun r ↦ Memory.satisfies (kind.encode r) query).map
        fun r ↦ ofObject (kind.encode r))) s := by
  intro failures rest h
  rw [Memory.reply, Memory.list, takeFailure_memory kind .list h]
  simp only [get_memory, Collection.values, Kind.written, List.map_map, List.filter_map]
  rfl

theorem answers_create (hfresh : ∀ x ∈ s.get kind, kind.key x ≠ ids (s.drawn + 1))
    (r : kind.Resource) :
    Answers ids (.create kind (Gateway.body kind r)) s
      (.ok (some (ofObject (kind.encode (s.issue ids kind r))))) (s.add ids kind r) := by
  intro failures rest h
  have hkey : kind.key (s.issue ids kind r) = ids (s.drawn + 1) :=
    Kind.key_eq (Kind.idOf_created _ _ _ _ _)
  have hcompleted := Kind.completed_encode (ids (s.drawn + 1)) s.project s.nextChain kind r
  have hinsert := Kind.insert_written_new hfresh hkey
  have hmemory : (s.add ids kind r).memory rest =
      { collections := s.collections.set kind (kind.written (s.get kind ++ [s.issue ids kind r]))
        failures := rest
        nextChain := if kind = .portChain then s.nextChain + 1 else s.nextChain
        project := s.project
        drawn := s.drawn + 1 } := by
    simp only [memory, add, put, Inventory.collections_set]
  rw [Memory.reply, Memory.create, takeFailure_memory kind .create h, hmemory, ← hinsert, issue,
    ← hcompleted]
  simp only [object?_body, Memory.draw, Memory.store, get_memory s rest]
  rfl

theorem answers_update (hs : s.Sound ids) (h : s.get kind = l₁ ++ r :: l₂)
    (change : kind.Resource) :
    Answers ids (.update kind (kind.key r) (Gateway.body kind change)) s
      (.ok (some (ofObject (kind.encode (kind.amended r change)))))
      (s.put kind (l₁ ++ kind.amended r change :: l₂)) := by
  intro failures rest htake
  have hfind : (s.get kind).find? (fun x ↦ kind.key x == kind.key r) = some r := hs.find?_of_split h
  have hkey : kind.key (kind.amended r change) = kind.key r := by
    rw [Kind.key, Kind.idOf_amended, Kind.key]
  have hinsert : (kind.written (l₁ ++ r :: l₂)).insert (kind.key r)
      (kind.encode (kind.amended r change)) = kind.written (l₁ ++ kind.amended r change :: l₂) :=
    Kind.insert_written (hs.keys_ne h).1 rfl hkey
  rw [Memory.reply, Memory.update, takeFailure_memory kind .update htake, memory_put, ← hinsert,
    ← h, ← Kind.amended_encode]
  simp only [object?_body, get_memory, Kind.get?_written, hfind, Option.map_some, Memory.store]
  rfl

theorem answers_update_absent (h : s.find? kind id = none) (change : kind.Resource) :
    Answers ids (.update kind id (Gateway.body kind change)) s
      (.error { status := some 404, message := Memory.absentText kind id }) s := by
  intro failures rest htake
  have hfind : (s.get kind).find? (fun x ↦ kind.key x == id) = none := h
  rw [Memory.reply, Memory.update, takeFailure_memory kind .update htake]
  simp only [object?_body, get_memory, Kind.get?_written, hfind, Option.map_none]

theorem answers_delete (hs : s.Sound ids) (h : s.get kind = l₁ ++ r :: l₂)
    (hfree : s.Free (kind.key r) kind) :
    Answers ids (.delete kind (kind.key r)) s (.ok .success) (s.put kind (l₁ ++ l₂)) := by
  intro failures rest htake
  have hfind : (s.get kind).find? (fun x ↦ kind.key x == kind.key r) = some r := hs.find?_of_split h
  have herase : (kind.written (l₁ ++ r :: l₂)).erase (kind.key r) = kind.written (l₁ ++ l₂) :=
    Kind.erase_written (hs.keys_ne h).1 rfl
  have hreferrer : Memory.referrer? (s.memory rest).collections kind (kind.key r) = none :=
    Inventory.referrer?_eq_none_iff.2 hfree
  rw [Memory.reply, Memory.delete, takeFailure_memory kind .delete htake, memory_put, ← herase, ← h]
  simp only [hreferrer, get_memory, Kind.get?_written, hfind, Option.map_some]
  rfl

theorem answers_delete_owned {owner : Kind × String}
    (h : Memory.referrer? s.collections kind id = some owner) :
    Answers ids (.delete kind id) s (.ok (.failure 409 (Memory.inUseText kind id owner))) s := by
  intro failures rest htake
  have hreferrer : Memory.referrer? (s.memory rest).collections kind id = some owner := h
  rw [Memory.reply, Memory.delete, takeFailure_memory kind .delete htake]
  simp only [hreferrer]

theorem answers_delete_held (h : ¬ s.Free id kind) :
    ∃ text, Answers ids (.delete kind id) s (.ok (.failure 409 text)) s := by
  obtain ⟨owner, howner⟩ := Option.ne_none_iff_exists'.1 (mt Inventory.referrer?_eq_none_iff.1 h)
  exact ⟨Memory.inUseText kind id owner, answers_delete_owned howner⟩

theorem answers_delete_absent (hfree : s.Free id kind) (h : s.find? kind id = none) :
    Answers ids (.delete kind id) s (.ok (.failure 404 (Memory.absentText kind id))) s := by
  intro failures rest htake
  have hfind : (s.get kind).find? (fun x ↦ kind.key x == id) = none := h
  have hreferrer : Memory.referrer? (s.memory rest).collections kind id = none :=
    Inventory.referrer?_eq_none_iff.2 hfree
  rw [Memory.reply, Memory.delete, takeFailure_memory kind .delete htake]
  simp only [hreferrer, get_memory, Kind.get?_written, hfind, Option.map_none]

end Service

namespace Atomic

theorem get (s : Service) (kind : Kind) (id : String) :
    Atomic ids faults (Gateway.get kind id) s (s.fetch kind id) s := by
  by_cases hid : id = ""
  · rw [Gateway.get, Gateway.requireId, Service.fetch, if_pos hid, if_pos hid]
    exact fail
  · rw [Gateway.get, Gateway.requireId, if_neg hid, Service.fetch_of_ne hid]
    refine Ends.call (Service.answers_get s kind id) (fun f hf ↦ ?_) ?_
    · exact Ends.fail (.inr ⟨⟨kind, .get, f.status, hf⟩, rfl, rfl⟩)
    · cases s.find? kind id with
      | none => exact done
      | some r =>
        simp only [Option.map_some, Program.done_bind, Gateway.decode_written]
        exact done

theorem get_of_ne (s : Service) (kind : Kind) (hid : id ≠ "") :
    Atomic ids faults (Gateway.get kind id) s (.ok (s.find? kind id)) s := by
  rw [← Service.fetch_of_ne hid]
  exact get s kind id

theorem get_split (hs : s.Sound ids) (h : s.get kind = l₁ ++ r :: l₂) (hid : kind.key r ≠ "") :
    Atomic ids faults (Gateway.get kind (kind.key r)) s (.ok (some r)) s := by
  rw [← hs.find?_of_split h]
  exact get_of_ne s kind hid

theorem get_blank (s : Service) (kind : Kind) :
    Atomic ids faults (Gateway.get kind "") s
      (.error (.invalidArgument (kind.displayName ++ " Id"))) s := get s kind ""

theorem list (s : Service) (kind : Kind) (query : Query) :
    Atomic ids faults (Gateway.list kind query) s
      (.ok ((s.get kind).filter fun r ↦ Memory.satisfies (kind.encode r) query)) s := by
  refine Ends.call (Service.answers_list s kind query) (fun f hf ↦ ?_) ?_
  · exact Ends.fail (.inr ⟨⟨kind, .list, f.status, hf⟩, rfl, rfl⟩)
  · simp only [Program.done_bind, Gateway.decodeAll_written]
    exact done

theorem listAll (s : Service) (kind : Kind) :
    Atomic ids faults (Gateway.list kind []) s (.ok (s.get kind)) s := by
  have hlist : Atomic ids faults (Gateway.list kind []) s _ s := list s kind []
  have hall : ∀ r ∈ s.get kind, Memory.satisfies (kind.encode r) [] = true := fun _ _ ↦ rfl
  rwa [List.filter_eq_self.2 hall] at hlist

theorem createFresh (kind : Kind)
    (hfresh : ∀ x ∈ s.get kind, kind.key x ≠ ids (s.drawn + 1)) (r : kind.Resource) :
    Atomic ids faults (Gateway.create kind r) s (.ok (s.issue ids kind r)) (s.add ids kind r) := by
  refine Ends.call (Service.answers_create hfresh r) (fun f hf ↦ ?_) ?_
  · exact Ends.fail (.inr ⟨⟨kind, .create, f.status, hf⟩, rfl, rfl⟩)
  · have hid : kind.idOf (s.issue ids kind r) ≠ none := by simp [Service.issue]
    simp only [Program.done_bind, Gateway.decodeResult_written .create hid]
    exact Ends.done ⟨rfl, rfl⟩

theorem create (hs : s.Sound ids) (hids : Function.Injective ids) (kind : Kind)
    (hport : kind ≠ .port) (r : kind.Resource) :
    Atomic ids faults (Gateway.create kind r) s (.ok (s.issue ids kind r)) (s.add ids kind r) :=
  createFresh kind (hs.fresh hids kind hport) r

theorem update (hs : s.Sound ids) (kind : Kind) {l₁ l₂ : List kind.Resource} {r : kind.Resource}
    (h : s.get kind = l₁ ++ r :: l₂) (hid : kind.key r ≠ "") (change : kind.Resource) :
    Atomic ids faults (Gateway.update kind (kind.key r) change) s
      (.ok (kind.amended r change)) (s.put kind (l₁ ++ kind.amended r change :: l₂)) := by
  rw [Gateway.update, Gateway.requireId, if_neg hid]
  refine Ends.call (Service.answers_update hs h change) (fun f hf ↦ ?_) ?_
  · exact Ends.fail (.inr ⟨⟨kind, .update, f.status, hf⟩, rfl, rfl⟩)
  · have hr : kind.idOf (kind.amended r change) ≠ none := by
      rw [Kind.idOf_amended]
      exact hs.identified kind r (by simp [h])
    simp only [Program.done_bind, Gateway.decodeResult_written .update hr]
    exact Ends.done ⟨rfl, rfl⟩

theorem update_blank (s : Service) (change : kind.Resource) :
    Atomic ids faults (Gateway.update kind "" change) s
      (.error (.invalidArgument (kind.displayName ++ " Id"))) s := by
  rw [Gateway.update, Gateway.requireId, if_pos rfl]
  exact fail

end Atomic

theorem Ends.update (hs : s.Sound ids) (kind : Kind) {l₁ l₂ : List kind.Resource}
    {r : kind.Resource} (h : s.get kind = l₁ ++ r :: l₂) (change : kind.Resource) :
    Ends ids faults (Gateway.update kind (kind.key r) change) s (Refused faults (kind.key r) s)
      fun a t ↦ a = kind.amended r change ∧ t = s.put kind (l₁ ++ kind.amended r change :: l₂) := by
  refine Ends.refused (fun hid ↦ .update hs kind h hid change) fun hid ↦ ?_
  rw [hid]
  exact ⟨_, rfl, .update_blank s change⟩

section

variable {α : Type} {E : Error → Service → Prop} {Q : α → Service → Prop}

theorem Ends.deleteRaw {f : ActionResponse → Program α} (hs : s.Sound ids) (hid : id ≠ "")
    (hfault : faults.Possible → ∀ e, e.isPartial = false → E e s)
    (hlie : ∀ code text, faults kind .delete (some code) →
      Ends ids faults (f (.failure code text)) s E Q)
    (hheld : ¬ s.Free id kind → ∀ text, Ends ids faults (f (.failure 409 text)) s E Q)
    (hgone : s.find? kind id = none → ∀ text, Ends ids faults (f (.failure 404 text)) s E Q)
    (hdone : ∀ l₁ r l₂, s.get kind = l₁ ++ r :: l₂ → kind.key r = id → s.Free id kind →
      Ends ids faults (f .success) (s.put kind (l₁ ++ l₂)) E Q) :
    Ends ids faults (Gateway.deleteRaw kind id >>= f) s E Q := by
  have hraw : Gateway.deleteRaw kind id >>= f = .call (.delete kind id) fun
      | .ok response => f response
      | .error e => .fail (Gateway.callFailure kind .delete e) := by
    rw [Gateway.deleteRaw, Gateway.requireId, if_neg hid]
    refine congrArg (Program.call _) (funext fun x ↦ ?_)
    cases x <;> rfl
  have hrefused (g : Failure) (hg : faults kind .delete g.status) :
      Ends ids faults (match Call.refused g (.delete kind id) with
        | .ok response => f response
        | .error e => .fail (Gateway.callFailure kind .delete e)) s E Q := by
    rcases g with ⟨_, _, _, _ | code⟩
    · exact Ends.fail (hfault ⟨kind, .delete, none, hg⟩ _ rfl)
    · exact hlie code _ hg
  rw [hraw]
  by_cases hfree : s.Free id kind
  · cases hfind : s.find? kind id with
    | none => exact Ends.call (Service.answers_delete_absent hfree hfind) hrefused (hgone hfind _)
    | some r =>
      obtain ⟨rfl, l₁, l₂, hsplit⟩ := Inventory.find?_eq_some hfind
      exact Ends.call (Service.answers_delete hs hsplit hfree) hrefused
        (hdone l₁ r l₂ hsplit rfl hfree)
  · obtain ⟨text, hanswers⟩ := Service.answers_delete_held hfree
    exact Ends.call hanswers hrefused (hheld hfree text)

end

/-- An injected answer to a delete may say that the resource is gone. -/
def Faults.Feigns (faults : Faults) (kind : Kind) : Prop :=
  ∃ code, faults kind .delete (some code) ∧ (200 ≤ code ∧ code < 300 ∨ code = 404)

theorem Faults.not_feigns_never (kind : Kind) : ¬ never.Feigns kind := fun ⟨_, h, _⟩ ↦ h

theorem Faults.not_feigns_honest (kind : Kind) : ¬ honest.Feigns kind := by
  rintro ⟨code, hcode, hfeigned⟩
  obtain ⟨hsuccess, hfound⟩ := hcode rfl code rfl
  exact hfeigned.elim hsuccess hfound

def Deleted (faults : Faults) (kind : Kind) (id : String) (s t : Service) : Prop :=
  t = s ∧ (s.find? kind id = none ∨ faults.Feigns kind) ∨
    ∃ l₁ r l₂, s.get kind = l₁ ++ r :: l₂ ∧ kind.key r = id ∧ s.Free id kind ∧
      t = s.put kind (l₁ ++ l₂)

theorem Deleted.of_stored (h : Deleted faults kind id s t) (hfound : s.find? kind id = some r)
    (hfeigns : ¬ faults.Feigns kind) : ∃ l₁ r l₂, s.get kind = l₁ ++ r :: l₂ ∧ kind.key r = id ∧
      s.Free id kind ∧ t = s.put kind (l₁ ++ l₂) := by
  obtain ⟨-, hnone | hfeigned⟩ | h := h
  · cases hfound.symm.trans hnone
  · exact absurd hfeigned hfeigns
  · exact h

theorem Ends.delete (hs : s.Sound ids) (kind : Kind) (id : String) :
    Ends ids faults (Gateway.delete kind id) s
      (fun e t ↦ t = s ∧ e.isPartial = false ∧ (faults.Possible ∨ id = "" ∨ ¬ s.Free id kind))
      (fun _ t ↦ Deleted faults kind id s t) := by
  by_cases hid : id = ""
  · have hblank : Gateway.delete kind id =
        .fail (.invalidArgument (kind.displayName ++ " Id")) := by
      rw [Gateway.delete, Gateway.deleteRaw, Gateway.requireId, if_pos hid]
      rfl
    rw [hblank]
    exact Ends.fail ⟨rfl, rfl, .inr (.inl hid)⟩
  · refine Ends.deleteRaw hs hid ?_ ?_ ?_ ?_ ?_
    · exact fun hpossible e he ↦ ⟨rfl, he, .inl hpossible⟩
    · intro code text hcode
      split
      · rename_i hgone
        have hsuccess : (ActionResponse.failure code text).isSuccess =
            (decide (200 ≤ code) && decide (code < 300)) := rfl
        have hmissing : (ActionResponse.failure code text).isNotFound = (code == 404) := rfl
        have hfeigned : 200 ≤ code ∧ code < 300 ∨ code = 404 := by
          simpa [hsuccess, hmissing] using hgone
        exact Ends.done (.inl ⟨rfl, .inr ⟨code, hcode, hfeigned⟩⟩)
      · exact Ends.fail ⟨rfl, rfl, .inl ⟨kind, .delete, some code, hcode⟩⟩
    · exact fun hheld text ↦ Ends.fail ⟨rfl, rfl, .inr (.inr hheld)⟩
    · exact fun hgone text ↦ Ends.done (.inl ⟨rfl, .inl hgone⟩)
    · exact fun l₁ r l₂ h hkey hfree ↦ Ends.done (.inr ⟨l₁, r, l₂, h, hkey, hfree, rfl⟩)

theorem Atomic.delete (hs : s.Sound ids) (hfeigns : ¬ faults.Feigns kind)
    (h : s.get kind = l₁ ++ r :: l₂) (hid : kind.key r ≠ "") (hfree : s.Free (kind.key r) kind) :
    Atomic ids faults (Gateway.delete kind (kind.key r)) s (.ok ()) (s.put kind (l₁ ++ l₂)) := by
  refine (Ends.delete hs kind (kind.key r)).mono ?_ ?_
  · rintro e t ⟨rfl, he, hpossible | hblank | hheld⟩
    · exact .inr ⟨hpossible, he, rfl⟩
    · exact absurd hblank hid
    · exact absurd hfree hheld
  · rintro _ t (⟨-, hgone | hfeigned⟩ | ⟨l₁', r', l₂', h', hkey, -, rfl⟩)
    · exact absurd (hs.find?_of_split h) (by simp [hgone])
    · exact absurd hfeigned hfeigns
    · obtain ⟨rfl, -, rfl⟩ := hs.split_unique h h' hkey
      exact ⟨rfl, rfl⟩

end TrafficSteering
