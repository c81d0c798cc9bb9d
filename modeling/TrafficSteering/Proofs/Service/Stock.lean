import TrafficSteering.Proofs.Resource.Mixed
import TrafficSteering.Proofs.Service.Calls
import TrafficSteering.Proofs.Service.Exchanges

namespace TrafficSteering

open Json

namespace Collection

def keys (c : Collection) : List String := c.map Prod.fst

/-- Each object is kept once, under its own id. -/
structure Keyed (c : Collection) : Prop where
  once : (c.map Prod.fst).Nodup
  own : ∀ e ∈ c, e.2.get? "id" = some (.str e.1)

variable {c : Collection} {id : String} {value : Object}

theorem mem_insert {e : String × Object} (h : e ∈ c.insert id value) : e = (id, value) ∨ e ∈ c := by
  induction c with
  | nil => simpa [insert] using h
  | cons d rest ih =>
    rw [insert] at h
    split at h
    · exact (List.mem_cons.1 h).imp_right (List.mem_cons_of_mem d)
    · obtain rfl | h := List.mem_cons.1 h
      · exact .inr List.mem_cons_self
      · exact (ih h).imp_right (List.mem_cons_of_mem d)

theorem erase_sublist (c : Collection) (id : String) : (c.erase id).Sublist c := by
  induction c with
  | nil => exact .slnil
  | cons d rest ih =>
    rw [erase]
    split
    · exact List.sublist_cons_self d rest
    · exact ih.cons_cons d

theorem mem_keys (h : c.get? id = some value) : id ∈ c.keys :=
  Decidable.byContradiction fun hid ↦ by
    cases h.symm.trans (Entries.lookup_eq_none_of_notMem hid)

theorem keys_insert_of_mem (h : id ∈ c.keys) (value : Object) :
    (c.insert id value).keys = c.keys := by
  induction c with
  | nil => cases h
  | cons e rest ih =>
    rw [insert]
    by_cases he : e.1 = id
    · rw [if_pos he, keys, keys, List.map_cons, List.map_cons, he]
    · rw [if_neg he]
      have hrest : id ∈ keys rest := (List.mem_cons.1 h).resolve_left (Ne.symm he)
      exact congrArg (e.1 :: ·) (ih hrest)

theorem keys_insert_of_notMem (h : id ∉ c.keys) (value : Object) :
    (c.insert id value).keys = c.keys ++ [id] := by
  induction c with
  | nil => rfl
  | cons e rest ih =>
    obtain ⟨he, hrest⟩ := List.ne_and_not_mem_of_not_mem_cons h
    rw [insert, if_neg (Ne.symm he)]
    exact congrArg (e.1 :: ·) (ih hrest)

theorem keys_erase (c : Collection) (id : String) : (c.erase id).keys = c.keys.erase id := by
  induction c with
  | nil => rfl
  | cons e rest ih =>
    have hkeys : (keys (e :: rest)).erase id =
        if e.1 == id then keys rest else e.1 :: (keys rest).erase id := List.erase_cons
    rw [erase, hkeys]
    by_cases he : e.1 = id
    · rw [if_pos he, if_pos (beq_iff_eq.2 he)]
    · rw [if_neg he, if_neg (mt beq_iff_eq.1 he), ← ih]
      rfl

namespace Keyed

theorem nil : Keyed [] := ⟨List.nodup_nil, nofun⟩

theorem insert (h : c.Keyed) (hvalue : value.get? "id" = some (.str id)) :
    (c.insert id value).Keyed where
  once := by
    change (c.insert id value).keys.Nodup
    by_cases hid : id ∈ c.keys
    · rw [keys_insert_of_mem hid]
      exact h.once
    · rw [keys_insert_of_notMem hid]
      exact List.nodup_append.2 ⟨h.once, by simp, fun a ha b hb heq ↦
        hid (List.mem_singleton.1 hb ▸ heq ▸ ha)⟩
  own e he := by
    obtain rfl | he := mem_insert he
    · exact hvalue
    · exact h.own e he

theorem erase (h : c.Keyed) (id : String) : (c.erase id).Keyed where
  once := by
    change (c.erase id).keys.Nodup
    rw [keys_erase]
    exact h.once.erase id
  own e he := h.own e ((erase_sublist c id).subset he)

theorem get?_of_mem (h : c.Keyed) {e : String × Object} (he : e ∈ c) : c.get? e.1 = some e.2 := by
  have honce := h.once
  clear h
  induction c with
  | nil => cases he
  | cons d rest ih =>
    obtain ⟨hd, hrest⟩ := List.nodup_cons.1 honce
    rw [Collection.get?, Entries.lookup_cons]
    obtain rfl | he := List.mem_cons.1 he
    · exact if_pos rfl
    · have hne : e.1 ≠ d.1 := fun hkey ↦ hd (hkey ▸ List.mem_map_of_mem he)
      rw [if_neg hne]
      exact ih he hrest

theorem own_of_get? (h : c.Keyed) (hget : c.get? id = some value) :
    value.get? "id" = some (.str id) := by
  have hmem : (id, value) ∈ c := by
    clear h
    induction c with
    | nil => cases hget
    | cons d rest ih =>
      rw [Collection.get?, Entries.lookup_cons] at hget
      split at hget
      · rename_i hid
        cases hget
        exact hid ▸ List.mem_cons_self
      · exact List.mem_cons_of_mem d (ih hget)
  exact h.own _ hmem

end Keyed

end Collection

namespace Memory

/-- The memory has come about by seeds, scheduled failures and calls of any kind. -/
inductive Stocked (ids : Nat → String) : Memory → Prop
  | empty (project : String) : Stocked ids { project }
  | seedPort {m : Memory} (h : Stocked ids m) (p : Port) : Stocked ids (m.seedPort ids p).2
  | failAfter {m : Memory} (h : Stocked ids m) (f : Failure) : Stocked ids (m.failAfter f)
  | reply {m : Memory} (h : Stocked ids m) (c : Call) : Stocked ids (reply ids c m).2
  | draw {m : Memory} (h : Stocked ids m) : Stocked ids (draw ids m).2

def Keyed (m : Memory) : Prop := ∀ kind, (m.collections.get kind).Keyed

variable {ids : Nat → String} {m n : Memory}

theorem get?_completed_id (kind : Kind) (chain : UInt64) (value : Object) :
    (completed kind chain value).get? "id" = value.get? "id" := by
  have hnew (d : Object) {k : String} (hk : "id" ≠ k) (x : Json) :
      (d.insertNew k x).get? "id" = d.get? "id" := by
    rw [Dict.insertNew]
    split
    · rfl
    · rw [Dict.get?_insert, if_neg hk]
  cases kind with
  | port | portPair | flowClassifier => rfl
  | portPairGroup =>
    simp only [completed, Dict.get?_insert, hnew _ (k := "port_pairs") (by decide)]
    rfl
  | portChain =>
    simp only [completed, Dict.get?_insert, hnew _ (k := "port_pair_groups") (by decide),
      hnew _ (k := "flow_classifiers") (by decide)]
    rfl

namespace Keyed

theorem store (h : m.Keyed) (kind : Kind) {id : String} {value : Object}
    (hvalue : value.get? "id" = some (.str id)) : (m.store kind id value).Keyed := by
  intro k
  rw [Memory.store, Collections.get_set]
  split
  · exact (h kind).insert hvalue
  · exact h k

theorem reply (h : m.Keyed) (c : Call) : (Memory.reply ids c m).2.Keyed := by
  -- every branch that stores does so under the id of what is stored
  cases c with
  | create kind body =>
    rw [Memory.reply, create, takeFailure]
    rcases Failure.take kind .create m.failures with ⟨_ | f, rest⟩
    · dsimp only
      split
      · exact h
      · have hcalm : Keyed { m with failures := rest, drawn := m.drawn + 1 } := h
        refine hcalm.store kind ?_
        rw [get?_completed_id]
        simp
    · exact h
  | get kind id =>
    rw [Memory.reply, get, takeFailure]
    rcases Failure.take kind .get m.failures with ⟨_ | f, rest⟩ <;> exact h
  | list kind query =>
    rw [Memory.reply, list, takeFailure]
    rcases Failure.take kind .list m.failures with ⟨_ | f, rest⟩ <;> exact h
  | update kind id body =>
    rw [Memory.reply, update, takeFailure]
    rcases Failure.take kind .update m.failures with ⟨_ | f, rest⟩
    · dsimp only
      split
      · exact h
      · exact h
      · rename_i value _ hget
        have hcalm : Keyed { m with failures := rest } := h
        refine hcalm.store kind ?_
        rw [get?_amended_id]
        exact (h kind).own_of_get? hget
    · exact h
  | delete kind id =>
    rw [Memory.reply, delete, takeFailure]
    rcases Failure.take kind .delete m.failures with ⟨_ | f, rest⟩
    · dsimp only
      split
      · exact h
      · exact h
      · intro k
        rw [Collections.get_set]
        split
        · exact (h kind).erase id
        · exact h k
    · dsimp only
      split <;> exact h

end Keyed

theorem Stocked.keyed (h : Stocked ids m) : m.Keyed := by
  induction h with
  | empty project =>
    intro kind
    cases kind <;> exact .nil
  | @seedPort m _ p ih =>
    rw [Memory.seedPort]
    have hid (id : String) (m : Memory) (h : m.Keyed) :
        (m.store .port id (p.encode.insert "id" (.str id))).Keyed :=
      h.store .port (by simp)
    cases p.id with
    | some id => exact hid id m ih
    | none => exact hid _ _ ih
  | failAfter _ f ih => exact ih
  | reply _ c ih => exact ih.reply c
  | draw _ ih => exact ih

end Memory

def Collections.Holds (cs : Collections) (kind : Kind) (id : String) : Prop :=
  ∃ value r, (cs.get kind).get? id = some value ∧ kind.decode (ofObject value) = .ok r

namespace Memory

variable {ids : Nat → String} {m : Memory}

theorem shows_object (h : m.Keyed) {kind : Kind} {id : String} {value : Object}
    (hget : (m.collections.get kind).get? id = some value) {r : kind.Resource}
    (hr : kind.decode (ofObject value) = .ok r) :
    m.collections.Holds kind id ∧ m.collections.Holds kind (kind.key r) := by
  have hkey : kind.key r = id := Kind.key_eq (Kind.idOf_decode ((h kind).own_of_get? hget) hr)
  rw [hkey]
  exact ⟨⟨value, r, hget, hr⟩, ⟨value, r, hget, hr⟩⟩

theorem shows_reply (h : m.Keyed) (c : Call) :
    Exchange.Shows m.collections.Holds ⟨c, (reply ids c m).1⟩ := by
  cases c with
  | create kind body => trivial
  | get kind id =>
    rw [reply, get, takeFailure]
    rcases Failure.take kind .get m.failures with ⟨_ | f, rest⟩
    · cases hget : (m.collections.get kind).get? id with
      | none =>
        simp only [hget]
        trivial
      | some value =>
        simp only [hget]
        intro r hr
        exact shows_object h hget hr
    · trivial
  | list kind query =>
    rw [reply, list, takeFailure]
    rcases Failure.take kind .list m.failures with ⟨_ | f, rest⟩
    · intro value hvalue r hr
      obtain ⟨d, hd, rfl⟩ := List.mem_map.1 hvalue
      obtain ⟨e, he, rfl⟩ := List.mem_map.1 (List.mem_filter.1 hd).1
      exact (shows_object h ((h kind).get?_of_mem he) hr).2
    · trivial
  | update kind id body => trivial
  | delete kind id => trivial

theorem applied_create {kind : Kind} (body : Json) {r : kind.Resource} (hid : kind.idOf r ≠ none) :
    Exchange.applied ⟨.create kind body, .ok (some (ofObject (kind.encode r)))⟩ = true :=
  congrArg Program.isDone (Gateway.decodeResult_written .create hid)

theorem applied_update {kind : Kind} (id : String) (body : Json) {value : Object}
    {r : kind.Resource} (hr : kind.decode (ofObject value) = .ok r) (hid : kind.idOf r ≠ none) :
    Exchange.applied ⟨.update kind id body, .ok (some (ofObject value))⟩ = true :=
  congrArg Program.isDone (Gateway.decodeResult_object .update hr hid)

theorem reply_unapplied (h : m.Keyed) {c : Call} (hc : c.Grounded m.collections.Holds)
    (hx : Exchange.applied ⟨c, (reply ids c m).1⟩ = false) :
    ∃ failures, (reply ids c m).2 = { m with failures } := by
  cases c with
  | create kind body =>
    obtain ⟨r, rfl⟩ := hc
    revert hx
    rw [reply, create, takeFailure]
    rcases Failure.take kind .create m.failures with ⟨_ | f, rest⟩
    · simp only [Service.object?_body, Kind.completed_encode]
      intro hx
      -- undisturbed, what the gateway sends is stored and its answer accepted
      rw [applied_create _ (by simp)] at hx
      cases hx
    · exact fun _ ↦ ⟨rest, rfl⟩
  | get kind id =>
    rw [reply, get, takeFailure]
    rcases Failure.take kind .get m.failures with ⟨_ | f, rest⟩ <;> exact ⟨rest, rfl⟩
  | list kind query =>
    rw [reply, list, takeFailure]
    rcases Failure.take kind .list m.failures with ⟨_ | f, rest⟩ <;> exact ⟨rest, rfl⟩
  | update kind id body =>
    obtain ⟨⟨value, r, hget, hr⟩, change, rfl⟩ := hc
    revert hx
    rw [reply, update, takeFailure]
    rcases Failure.take kind .update m.failures with ⟨_ | f, rest⟩
    · simp only [Service.object?_body, hget]
      intro hx
      -- the object was read before, and it can still be read after the change
      obtain ⟨r', hr'⟩ := Kind.decode_amended hr (kind.clearServerFields change)
      have hid : (amended value (kind.encode (kind.clearServerFields change))).get? "id" =
          some (.str id) := (get?_amended_id value _).trans ((h kind).own_of_get? hget)
      rw [applied_update id _ hr' (by simp [Kind.idOf_decode hid hr'])] at hx
      cases hx
    · exact fun _ ↦ ⟨rest, rfl⟩
  | delete kind id =>
    revert hx
    rw [reply, delete, takeFailure]
    rcases Failure.take kind .delete m.failures with ⟨_ | f, rest⟩
    · dsimp only
      split
      · exact fun _ ↦ ⟨rest, rfl⟩
      · exact fun _ ↦ ⟨rest, rfl⟩
      · intro hx
        cases hx
    · dsimp only
      split <;> exact fun _ ↦ ⟨rest, rfl⟩

/-- The same things are stored; calls may have been counted and ids drawn. -/
def StoresAs (n m : Memory) : Prop := n = { m with failures := n.failures, drawn := n.drawn }

theorem StoresAs.refl (m : Memory) : m.StoresAs m := rfl

end Memory

/-- As long as the exchanges change nothing, the same things are stored. -/
theorem Concludes.storesAs {α : Type} {ids : Nat → String} {m n : Memory} {p : Program α}
    {xs : List Exchange} {E : Error → List Exchange → Prop} {Q : α → List Exchange → Prop}
    (hp : Concludes m.collections.Holds p xs E Q) (hm : m.Keyed) (hn : n.StoresAs m)
    (hxs : changed xs = false) (h : changed (p.exchanges (Memory.transport ids) n) = false) :
    (p.run (Memory.transport ids) n).2.StoresAs m := by
  induction p generalizing xs n with
  | done a => exact hn
  | fail e => exact hn
  | call c next ih =>
    have hcollections : n.collections = m.collections := by rw [hn]
    have hkeyed : n.Keyed := by rwa [Memory.Keyed, hcollections]
    obtain ⟨hx, hrest⟩ : Exchange.applied ⟨c, (Memory.reply ids c n).1⟩ = false ∧
        changed ((next (Memory.reply ids c n).1).exchanges (Memory.transport ids)
          (Memory.reply ids c n).2) = false := Bool.or_eq_false_iff.1 h
    obtain ⟨failures, hreply⟩ :=
      Memory.reply_unapplied hkeyed (hcollections ▸ hp.1 hxs) hx
    refine ih _ (hp.2 _ fun _ ↦ hcollections ▸ Memory.shows_reply hkeyed c) ?_ ?_ hrest
    · rw [transport_reply, hreply, hn]
      rfl
    · rw [changed_append, hxs, transport_reply, hx]
      rfl
  | draw next ih =>
    refine ih _ (hp _) ?_ hxs h
    rw [hn]
    rfl

end TrafficSteering
