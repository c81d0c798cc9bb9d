import TrafficSteering.Proofs.Service.Stock

namespace TrafficSteering

open Json

namespace Call

def target : Call → Option String
  | get _ id | update _ id _ | delete _ id => some id
  | create _ _ | list _ _ => none

def values : (c : Call) → c.Reply → List Json
  | create _ _, .ok found | get _ _, .ok found | update _ _ _, .ok found => found.toList
  | list _ _, .ok values => values
  | _, _ => []

end Call

namespace Collection

theorem get?_insert (c : Collection) (id k : String) (value : Object) :
    (c.insert id value).get? k = if k = id then some value else c.get? k := by
  induction c with
  | nil => exact Entries.lookup_cons k (id, value) []
  | cons d rest ih =>
    rw [insert]
    by_cases hd : d.1 = id
    · rw [if_pos hd, get?, get?, Entries.lookup_cons, Entries.lookup_cons, hd]
      split <;> rfl
    · rw [if_neg hd, get?, get?, Entries.lookup_cons, Entries.lookup_cons, ← get?, ← get?, ih]
      by_cases hk : k = d.1
      · rw [if_pos hk, if_pos hk, if_neg (hk ▸ hd)]
      · rw [if_neg hk, if_neg hk]

theorem get?_erase_self {c : Collection} (h : (c.map Prod.fst).Nodup) (id : String) :
    (c.erase id).get? id = none := by
  induction c with
  | nil => rfl
  | cons d rest ih =>
    obtain ⟨hd, hrest⟩ := List.nodup_cons.1 h
    rw [erase]
    by_cases hid : d.1 = id
    · rw [if_pos hid]
      exact Entries.lookup_eq_none_of_notMem (hid ▸ hd)
    · rw [if_neg hid, get?, Entries.lookup_cons, if_neg (Ne.symm hid)]
      exact ih hrest

theorem get?_erase_of_ne (c : Collection) {id k : String} (h : k ≠ id) :
    (c.erase id).get? k = c.get? k := by
  induction c with
  | nil => rfl
  | cons d rest ih =>
    rw [erase]
    by_cases hid : d.1 = id
    · rw [if_pos hid, get?, get?, Entries.lookup_cons, if_neg (hid ▸ h)]
    · rw [if_neg hid, get?, get?, Entries.lookup_cons, Entries.lookup_cons, ← get?, ← get?, ih]

end Collection

namespace Memory

variable {ids : Nat → String} {m n : Memory}

theorem get?_store (m : Memory) (kind k : Kind) (id i : String) (value : Object) :
    ((m.store kind id value).collections.get k).get? i =
      if k = kind ∧ i = id then some value else (m.collections.get k).get? i := by
  rw [store, Collections.get_set]
  by_cases hk : k = kind
  · subst hk
    simp only [if_true, Collection.get?_insert, true_and]
  · simp only [hk, false_and, if_false]

theorem get?_store_self (m : Memory) (kind : Kind) (id : String) (value : Object) :
    ((m.store kind id value).collections.get kind).get? id = some value := by
  rw [get?_store, if_pos ⟨rfl, rfl⟩]

def issued (ids : Nat → String) (m : Memory) (kind : Kind) (value : Object) : Object :=
  completed kind m.nextChain (((value.insert "id" (.str (ids (m.drawn + 1)))).insert "project_id"
    (.str m.project)).insert "tenant_id" (.str m.project))

/-- The answer to a call and the memory after it. -/
inductive Replied (ids : Nat → String) (m : Memory) : (c : Call) → c.Reply → Memory → Prop
  | kept {c : Call} {r : c.Reply} (failures : List Failure) (hvalues : c.values r = []) :
      Replied ids m c r { m with failures }
  | found {kind : Kind} {id : String} {value : Object} (failures : List Failure)
      (hget : (m.collections.get kind).get? id = some value) :
      Replied ids m (.get kind id) (.ok (some (ofObject value))) { m with failures }
  | listed (kind : Kind) (query : Query) (failures : List Failure) :
      Replied ids m (.list kind query)
        (.ok (((m.collections.get kind).values.filter (satisfies · query)).map ofObject))
        { m with failures }
  | created (kind : Kind) {body : Json} {value : Object} (failures : List Failure)
      (hbody : body.object? = some value) :
      Replied ids m (.create kind body) (.ok (some (ofObject (issued ids m kind value))))
        { m.store kind (ids (m.drawn + 1)) (issued ids m kind value) with
          failures
          nextChain := if kind = .portChain then m.nextChain + 1 else m.nextChain
          drawn := m.drawn + 1 }
  | updated {kind : Kind} {id : String} {body : Json} {value change : Object}
      (failures : List Failure) (hbody : body.object? = some change)
      (hget : (m.collections.get kind).get? id = some value) :
      Replied ids m (.update kind id body) (.ok (some (ofObject (amended value change))))
        { m.store kind id (amended value change) with failures }
  | deleted {kind : Kind} {id : String} (failures : List Failure)
      (hfree : referrer? m.collections kind id = none) :
      Replied ids m (.delete kind id) (.ok .success)
        { m with
          failures
          collections := m.collections.set kind ((m.collections.get kind).erase id) }

theorem replied (ids : Nat → String) (m : Memory) (c : Call) :
    Replied ids m c (reply ids c m).1 (reply ids c m).2 := by
  cases c with
  | create kind body =>
    rw [reply, create, takeFailure]
    rcases Failure.take kind .create m.failures with ⟨_ | f, rest⟩
    · dsimp only
      split
      · exact .kept rest rfl
      · rename_i value hbody
        exact .created kind rest hbody
    · exact .kept rest rfl
  | get kind id =>
    rw [reply, get, takeFailure]
    rcases Failure.take kind .get m.failures with ⟨_ | f, rest⟩
    · cases hget : (m.collections.get kind).get? id with
      | none =>
        simp only [hget]
        exact .kept rest rfl
      | some value =>
        simp only [hget]
        exact .found rest hget
    · exact .kept rest rfl
  | list kind query =>
    rw [reply, list, takeFailure]
    rcases Failure.take kind .list m.failures with ⟨_ | f, rest⟩
    · exact .listed kind query rest
    · exact .kept rest rfl
  | update kind id body =>
    rw [reply, update, takeFailure]
    rcases Failure.take kind .update m.failures with ⟨_ | f, rest⟩
    · dsimp only
      split
      · exact .kept rest rfl
      · exact .kept rest rfl
      · rename_i change value hbody hget
        exact .updated rest hbody hget
    · exact .kept rest rfl
  | delete kind id =>
    rw [reply, delete, takeFailure]
    rcases Failure.take kind .delete m.failures with ⟨_ | f, rest⟩
    · dsimp only
      split
      · exact .kept rest rfl
      · exact .kept rest rfl
      · rename_i hfree _
        exact .deleted rest hfree
    · dsimp only
      split <;> exact .kept rest rfl

theorem takeFailure_calm (h : m.failures = []) (kind : Kind) (operation : Operation) :
    m.takeFailure kind operation = (none, m) := by
  rw [takeFailure, h, Failure.take, ← h]

theorem Replied.stored {c : Call} {r : c.Reply} (h : Replied ids m c r n) (hm : m.Keyed)
    {value : Json} (hvalue : value ∈ c.values r) :
    ∃ id object, value = ofObject object ∧ (n.collections.get c.kind).get? id = some object ∧
      ∀ i ∈ c.target, i = id := by
  cases h with
  | kept failures hvalues =>
    rw [hvalues] at hvalue
    cases hvalue
  | @found kind id object failures hget =>
    obtain rfl := List.mem_singleton.1 hvalue
    exact ⟨id, object, rfl, hget, fun i hi ↦ (Option.mem_some.1 hi).symm⟩
  | listed kind query failures =>
    obtain ⟨object, hobject, rfl⟩ := List.mem_map.1 hvalue
    obtain ⟨e, he, rfl⟩ := List.mem_map.1 (List.mem_filter.1 hobject).1
    exact ⟨e.1, e.2, rfl, (hm kind).get?_of_mem he, fun i hi ↦ by cases hi⟩
  | created kind failures hbody =>
    obtain rfl := List.mem_singleton.1 hvalue
    exact ⟨ids (m.drawn + 1), _, rfl, get?_store_self m kind _ _, fun i hi ↦ by cases hi⟩
  | @updated kind id body object change failures hbody hget =>
    obtain rfl := List.mem_singleton.1 hvalue
    exact ⟨id, _, rfl, get?_store_self m kind id _, fun i hi ↦ (Option.mem_some.1 hi).symm⟩
  | deleted failures hfree => cases hvalue

/-- Where an object comes from that is stored after a call. -/
inductive Origin (ids : Nat → String) (m n : Memory) (kind : Kind) (id : String)
    (value : Object) : Call → Prop
  | kept {c : Call} (hget : (m.collections.get kind).get? id = some value) :
      Origin ids m n kind id value c
  | created {body : Json} {sent : Object} (hbody : body.object? = some sent)
      (hid : id = ids (m.drawn + 1)) (hdrawn : m.drawn < n.drawn)
      (hvalue : value = issued ids m kind sent) : Origin ids m n kind id value (.create kind body)
  | updated {body : Json} {old change : Object} (hbody : body.object? = some change)
      (hget : (m.collections.get kind).get? id = some old) (hvalue : value = amended old change) :
      Origin ids m n kind id value (.update kind id body)

theorem Replied.origin {c : Call} {r : c.Reply} (h : Replied ids m c r n) (hm : m.Keyed)
    {kind : Kind} {id : String} {value : Object}
    (hget : (n.collections.get kind).get? id = some value) : Origin ids m n kind id value c := by
  cases h with
  | kept => exact .kept hget
  | found => exact .kept hget
  | listed => exact .kept hget
  | @created k body sent failures hbody =>
    change ((m.store k (ids (m.drawn + 1)) (issued ids m k sent)).collections.get kind).get? id =
      some value at hget
    rw [get?_store] at hget
    split at hget
    · rename_i heq
      obtain ⟨rfl, hid⟩ := heq
      exact .created hbody hid (Nat.lt_succ_self _) (Option.some.inj hget).symm
    · exact .kept hget
  | @updated k i body old change failures hbody hold =>
    change ((m.store k i (amended old change)).collections.get kind).get? id = some value at hget
    rw [get?_store] at hget
    split at hget
    · rename_i heq
      obtain ⟨rfl, rfl⟩ := heq
      exact .updated hbody hold (Option.some.inj hget).symm
    · exact .kept hget
  | @deleted k i failures hfree =>
    change ((m.collections.set k _).get kind).get? id = some value at hget
    rw [Collections.get_set] at hget
    split at hget
    · rename_i hkind
      obtain rfl := hkind
      -- what is stored under the id that was deleted cannot have been stored before
      by_cases hid : id = i
      · subst hid
        rw [Collection.get?_erase_self (hm kind).once] at hget
        cases hget
      · exact .kept (Collection.get?_erase_of_ne _ hid ▸ hget)
    · exact .kept hget

theorem Replied.drawn_le {c : Call} {r : c.Reply} (h : Replied ids m c r n) :
    m.drawn ≤ n.drawn := by
  cases h with
  | created => exact Nat.le_succ _
  | kept | found | listed | updated | deleted => exact Nat.le_refl _

def Drawn (ids : Nat → String) (m : Memory) : Prop :=
  ∀ kind, kind ≠ .port → ∀ id value, (m.collections.get kind).get? id = some value →
    ∃ k ≤ m.drawn, id = ids k

theorem Drawn.replied (h : m.Drawn ids) (hm : m.Keyed) {c : Call} {r : c.Reply}
    (hr : Replied ids m c r n) : n.Drawn ids := by
  have hearlier (id : String) (hid : ∃ k ≤ m.drawn, id = ids k) : ∃ k ≤ n.drawn, id = ids k := by
    obtain ⟨k, hk, he⟩ := hid
    exact ⟨k, Nat.le_trans hk hr.drawn_le, he⟩
  intro kind hkind id value hget
  cases hr.origin hm hget with
  | kept hold => exact hearlier id (h kind hkind id value hold)
  | created hbody hid hdrawn hvalue => exact ⟨m.drawn + 1, hdrawn, hid⟩
  | @updated _ old _ hbody hold hvalue => exact hearlier id (h kind hkind id old hold)

theorem Stocked.drawn (h : Stocked ids m) : m.Drawn ids := by
  have hports {m n : Memory} (hm : m.Drawn ids) (hdrawn : m.drawn ≤ n.drawn)
      (hget : ∀ kind, kind ≠ .port → n.collections.get kind = m.collections.get kind) :
      n.Drawn ids := by
    intro kind hkind id value hvalue
    obtain ⟨k, hk, he⟩ := hm kind hkind id value (hget kind hkind ▸ hvalue)
    exact ⟨k, Nat.le_trans hk hdrawn, he⟩
  have hstore {m : Memory} (hm : m.Drawn ids) (id : String) (value : Object) :
      (m.store .port id value).Drawn ids :=
    hports hm (Nat.le_refl _) fun kind hkind ↦ by rw [store, Collections.get_set, if_neg hkind]
  have hdraw {m : Memory} (hm : m.Drawn ids) : (Memory.draw ids m).2.Drawn ids :=
    hports hm (Nat.le_succ _) fun _ _ ↦ rfl
  induction h with
  | empty project =>
    intro kind _ id value hget
    cases kind <;> cases hget
  | seedPort _ p ih =>
    rw [Memory.seedPort]
    cases p.id with
    | some id => exact hstore ih id _
    | none => exact hstore (hdraw ih) _ _
  | failAfter _ f ih => exact ih
  | @reply m h c ih => exact ih.replied h.keyed (replied ids m c)
  | draw _ ih => exact hdraw ih

end Memory

end TrafficSteering
