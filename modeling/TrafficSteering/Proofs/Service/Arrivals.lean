import Mathlib.Data.List.Dedup
import Mathlib.Data.List.Induction
import TrafficSteering.Proofs.Service.Replies

namespace TrafficSteering

open Json

namespace Call

/-- The answer is an error, or tells that a deletion has not been made. -/
def Declined : (c : Call) → c.Reply → Prop
  | create _ _, r | get _ _, r | update _ _ _, r => ∃ e, r = .error e
  | list _ _, r => ∃ e, r = .error e
  | delete _ _, r => ∀ response, r = .ok response → response.isSuccess = false

def newId? : (c : Call) → c.Reply → Option String
  | create _ _, .ok (some value) => (value.get? "id").bind Json.text?
  | _, _ => none

def newChain? : (c : Call) → c.Reply → Option Json
  | create .portChain _, .ok found => found
  | _, _ => none

variable {c : Call} {r : c.Reply}

theorem newId?_eq_none (h : c.values r = []) : c.newId? r = none := by
  cases c with
  | create kind body =>
    obtain e | found := r
    · rfl
    · obtain rfl := Option.toList_eq_nil_iff.1 h
      rfl
  | get | list | update | delete => rfl

theorem newChain?_eq_none (h : c.values r = []) : c.newChain? r = none := by
  cases c with
  | create kind body =>
    obtain e | found := r
    · cases kind <;> rfl
    · obtain rfl := Option.toList_eq_nil_iff.1 h
      cases kind <;> rfl
  | get | list | update | delete => rfl

end Call

/-- What becomes of the ids that are in use: nothing, or a new one is put at the end, or one is
taken out. The first list holds what is new. -/
inductive Shift (l : List String) : List String → List String → Prop
  | same : Shift l [] l
  | added {id : String} (h : id ∉ l) : Shift l [id] (l ++ [id])
  | removed (id : String) : Shift l [] (l.erase id)

theorem dedup_append_singleton (l : List String) (id : String) :
    (l ++ [id]).dedup = l.dedup.filter (· ≠ id) ++ [id] := by
  induction l with
  | nil => rfl
  | cons x l ih =>
    rw [List.cons_append]
    by_cases hx : x ∈ l
    · rw [List.dedup_cons_of_mem hx, List.dedup_cons_of_mem (List.mem_append_left _ hx), ih]
    · rw [List.dedup_cons_of_notMem hx]
      by_cases hid : x = id
      · subst hid
        rw [List.dedup_cons_of_mem (by simp), ih, List.filter_cons_of_neg (by simp)]
      · rw [List.dedup_cons_of_notMem (by simp [hx, hid]), ih,
          List.filter_cons_of_pos (by simpa using hid), List.cons_append]

theorem Shift.order {l fresh l' come : List String} (h : Shift l fresh l') (hl : l.Nodup)
    (horder : l = come.dedup.filter (· ∈ l)) : l' = (come ++ fresh).dedup.filter (· ∈ l') := by
  cases h with
  | same => rwa [List.append_nil]
  | @added id hid =>
    rw [dedup_append_singleton, List.filter_append, List.filter_filter,
      List.filter_cons_of_pos (by simp), List.filter_nil]
    refine congrArg (· ++ [id]) (horder.trans (List.filter_congr fun x _ ↦ ?_))
    by_cases hx : x = id
    · subst hx
      simp [hid]
    · simp [hx]
  | removed id =>
    rw [List.append_nil, hl.erase_eq_filter id]
    calc l.filter (· != id)
        = (come.dedup.filter (· ∈ l)).filter (· != id) :=
          congrArg (List.filter (· != id)) horder
      _ = come.dedup.filter (· ∈ l.filter (· != id)) := by
          rw [List.filter_filter]
          refine List.filter_congr fun x _ ↦ Bool.eq_iff_iff.2 ?_
          simp [and_comm]

namespace Memory

/-- What is done to a memory from outside. -/
inductive Move where
  | seedPort (port : Port)
  | failAfter (failure : Failure)
  | call (c : Call)

def keys (m : Memory) (kind : Kind) : List String := (m.collections.get kind).keys

section

variable (ids : Nat → String)

def Move.apply : Move → Memory → Memory
  | seedPort p, m => (m.seedPort ids p).2
  | failAfter f, m => m.failAfter f
  | call c, m => (reply ids c m).2

def moved (moves : List Move) (m : Memory) : Memory :=
  moves.foldl (fun m move ↦ move.apply ids m) m

def Move.place? (m : Memory) : Move → Option (Kind × String)
  | seedPort p => some (.port, (m.seedPort ids p).1)
  | failAfter _ => none
  | call c => (c.newId? (reply ids c m).1).map (c.kind, ·)

/-- The id of this kind under which a move has put an object where there was none. -/
def arrived (kind : Kind) (m : Memory) (move : Move) : List String :=
  match move.place? ids m with
  | some (k, id) => if k = kind ∧ id ∉ m.keys kind then [id] else []
  | none => []

def arrivals (kind : Kind) : List Move → Memory → List String
  | [], _ => []
  | move :: rest, m => arrived ids kind m move ++ arrivals kind rest (move.apply ids m)

def Move.chain? (m : Memory) : Move → Option Json
  | seedPort _ | failAfter _ => none
  | call c => c.newChain? (reply ids c m).1

def chains : List Move → Memory → List Json
  | [], _ => []
  | move :: rest, m => (move.chain? ids m).toList ++ chains rest (move.apply ids m)

end

variable {ids : Nat → String} {m n : Memory} {kind : Kind} {id : String}

theorem keys_store (m : Memory) (k : Kind) (id : String) (value : Object) (kind : Kind) :
    (m.store k id value).keys kind =
      if kind = k then ((m.collections.get k).insert id value).keys else m.keys kind := by
  rw [keys, store, Collections.get_set]
  split <;> rfl

theorem shift_store (m : Memory) (k : Kind) (id : String) (value : Object) (kind : Kind) :
    Shift (m.keys kind) (if k = kind ∧ id ∉ m.keys kind then [id] else [])
      ((m.store k id value).keys kind) := by
  rw [keys_store]
  by_cases hk : kind = k
  · subst hk
    by_cases hid : id ∈ m.keys kind
    · rw [if_pos rfl, if_neg (not_and_not_right.2 fun _ ↦ hid), Collection.keys_insert_of_mem hid]
      exact .same
    · rw [if_pos rfl, if_pos ⟨rfl, hid⟩, Collection.keys_insert_of_notMem hid]
      exact .added hid
  · rw [if_neg hk, if_neg fun h ↦ hk h.1.symm]
    exact .same

theorem keys_amended {value : Object} (hget : (m.collections.get kind).get? id = some value)
    (value' : Object) (k : Kind) : (m.store kind id value').keys k = m.keys k := by
  rw [keys_store]
  split
  · rename_i hk
    subst hk
    exact Collection.keys_insert_of_mem (Collection.mem_keys hget) value'
  · rfl

theorem keys_erased (m : Memory) (k : Kind) (id : String) (kind : Kind) :
    Collection.keys ((m.collections.set k ((m.collections.get k).erase id)).get kind) =
      if kind = k then (m.keys kind).erase id else m.keys kind := by
  rw [Collections.get_set]
  split
  · rename_i hk
    subst hk
    exact Collection.keys_erase _ id
  · rfl

theorem get?_issued_id (m : Memory) (kind : Kind) (value : Object) :
    (issued ids m kind value).get? "id" = some (.str (ids (m.drawn + 1))) := by
  rw [issued, get?_completed_id]
  simp

theorem Replied.shift {c : Call} {r : c.Reply} (h : Replied ids m c r n) (kind : Kind) :
    Shift (m.keys kind)
      (match (c.newId? r).map (c.kind, ·) with
        | some (k, id) => if k = kind ∧ id ∉ m.keys kind then [id] else []
        | none => [])
      (n.keys kind) := by
  cases h with
  | kept failures hvalues =>
    rw [Call.newId?_eq_none hvalues]
    exact .same
  | found | listed => exact .same
  | @created k body value failures hbody =>
    have hid : (ofObject (issued ids m k value)).get? "id" = some (.str (ids (m.drawn + 1))) :=
      get?_issued_id m k value
    rw [Call.newId?, hid]
    exact shift_store m k _ _ kind
  | @updated k id body value change failures hbody hget =>
    have hkeys := keys_amended hget (amended value change) kind
    change Shift (m.keys kind) [] ((m.store k id _).keys kind)
    rw [hkeys]
    exact .same
  | @deleted k id failures hfree =>
    change Shift (m.keys kind) [] (Collection.keys ((m.collections.set k _).get kind))
    rw [keys_erased]
    split
    · exact .removed id
    · exact .same

theorem shift_move (m : Memory) (move : Move) (kind : Kind) :
    Shift (m.keys kind) (arrived ids kind m move) ((move.apply ids m).keys kind) := by
  cases move with
  | failAfter f => exact .same
  | call c => exact (replied ids m c).shift kind
  | seedPort p =>
    rw [arrived, Move.place?, Move.apply, seedPort]
    cases p.id with
    | some id => exact shift_store m .port id _ kind
    | none => exact shift_store (draw ids m).2 .port _ _ kind

theorem moved_append (moves : List Move) (move : Move) (m : Memory) :
    moved ids (moves ++ [move]) m = move.apply ids (moved ids moves m) := by
  rw [moved, List.foldl_append]
  rfl

theorem arrivals_append (moves : List Move) (move : Move) (m : Memory) :
    arrivals ids kind (moves ++ [move]) m =
      arrivals ids kind moves m ++ arrived ids kind (moved ids moves m) move := by
  induction moves generalizing m with
  | nil => exact List.append_nil _
  | cons first rest ih =>
    rw [List.cons_append, arrivals, arrivals, ih, List.append_assoc]
    rfl

theorem stocked_moved (ids : Nat → String) (project : String) (moves : List Move) :
    Stocked ids (moved ids moves { project }) := by
  induction moves using List.reverseRecOn with
  | nil => exact .empty project
  | append_singleton moves move ih =>
    rw [moved_append]
    cases move with
    | seedPort p => exact ih.seedPort p
    | failAfter f => exact ih.failAfter f
    | call c => exact ih.reply c

/-- The ids in use are the last arrivals that are left. -/
theorem keys_moved (project : String) (moves : List Move) (kind : Kind) :
    (moved ids moves { project }).keys kind =
      (arrivals ids kind moves { project }).dedup.filter
        (· ∈ (moved ids moves { project }).keys kind) := by
  induction moves using List.reverseRecOn with
  | nil => cases kind <;> rfl
  | append_singleton moves move ih =>
    have honce := ((stocked_moved ids project moves).keyed kind).once
    rw [moved_append, arrivals_append]
    exact (shift_move _ move kind).order honce ih

theorem get?_issued_chain (m : Memory) (value : Object) :
    (issued ids m .portChain value).get? "chain_id" = some (.int m.nextChain.toNat) := by
  simp [issued, completed]

theorem Replied.chain {c : Call} {r : c.Reply} (h : Replied ids m c r n) :
    c.newChain? r = none ∧ n.nextChain = m.nextChain ∨
      ∃ value, c.newChain? r = some value ∧
        value.get? "chain_id" = some (.int m.nextChain.toNat) ∧
        n.nextChain = m.nextChain + 1 := by
  cases h with
  | kept failures hvalues => exact .inl ⟨Call.newChain?_eq_none hvalues, rfl⟩
  | found | listed | updated | deleted => exact .inl ⟨rfl, rfl⟩
  | @created k body value failures hbody =>
    cases k with
    | portChain => exact .inr ⟨_, rfl, get?_issued_chain m value, rfl⟩
    | port | portPair | portPairGroup | flowClassifier => exact .inl ⟨rfl, rfl⟩

theorem chain_move (ids : Nat → String) (m : Memory) (move : Move) :
    move.chain? ids m = none ∧ (move.apply ids m).nextChain = m.nextChain ∨
      ∃ value, move.chain? ids m = some value ∧
        value.get? "chain_id" = some (.int m.nextChain.toNat) ∧
        (move.apply ids m).nextChain = m.nextChain + 1 := by
  cases move with
  | failAfter f => exact .inl ⟨rfl, rfl⟩
  | call c => exact (replied ids m c).chain
  | seedPort p =>
    refine .inl ⟨rfl, ?_⟩
    rw [Move.apply, seedPort]
    cases p.id <;> rfl

theorem get?_chains {moves : List Move} {k : Nat} {value : Json}
    (h : (chains ids moves m)[k]? = some value) :
    value.get? "chain_id" = some (.int (m.nextChain + UInt64.ofNat k).toNat) := by
  induction moves generalizing m k with
  | nil => cases h
  | cons move rest ih =>
    obtain ⟨hnone, hchain⟩ | ⟨first, hfirst, hnumber, hchain⟩ := chain_move ids m move
    · rw [chains, hnone] at h
      exact hchain ▸ ih h
    · rw [chains, hfirst] at h
      cases k with
      | zero =>
        obtain rfl := Option.some.inj h
        simpa using hnumber
      | succ k =>
        have hnext : m.nextChain + 1 + UInt64.ofNat k = m.nextChain + UInt64.ofNat (k + 1) := by
          rw [UInt64.ofNat_add, UInt64.add_assoc, UInt64.add_comm 1]
          rfl
        rw [ih h, hchain, hnext]

def Unlisted (m : Memory) (id : String) : Kind → Prop
  | .portPair => ∀ e ∈ m.collections.portPairGroups, ∀ refs,
      e.2.get? "port_pairs" = some (.arr refs) → .str id ∉ refs
  | .portPairGroup => ∀ e ∈ m.collections.portChains, ∀ refs,
      e.2.get? "port_pair_groups" = some (.arr refs) → .str id ∉ refs
  | .flowClassifier => ∀ e ∈ m.collections.portChains, ∀ refs,
      e.2.get? "flow_classifiers" = some (.arr refs) → .str id ∉ refs
  | .port | .portChain => True

theorem not_listed {l : Collection} {field : String}
    (h : (l.find? fun e ↦ refersTo field id e.2) = none) {e : String × Object} (he : e ∈ l)
    {refs : List Json} (hrefs : e.2.get? field = some (.arr refs)) : .str id ∉ refs := by
  intro hid
  have hrefers : refersTo field id e.2 = true := by
    rw [refersTo, hrefs]
    exact List.any_eq_true.2 ⟨_, hid, beq_self_eq_true _⟩
  exact List.find?_eq_none.1 h e he hrefers

theorem unlisted_of_referrer? (h : referrer? m.collections kind id = none) :
    m.Unlisted id kind := by
  have hbind {α β : Type} {o : Option α} {f : α → β} (h : (o.bind fun a ↦ some (f a)) = none) :
      o = none := by
    cases o with
    | none => rfl
    | some a => cases h
  cases kind with
  | port | portChain => trivial
  | portPair => exact fun e he refs hrefs ↦ not_listed (hbind h) he hrefs
  | portPairGroup => exact fun e he refs hrefs ↦ not_listed (hbind h) he hrefs
  | flowClassifier => exact fun e he refs hrefs ↦ not_listed (hbind h) he hrefs

theorem mem_keys_store (h : id ∈ m.keys kind) (k : Kind) (i : String) (value : Object) :
    id ∈ (m.store k i value).keys kind := by
  rw [keys_store]
  split
  · rename_i hk
    subst hk
    by_cases hi : i ∈ m.keys kind
    · rwa [Collection.keys_insert_of_mem hi]
    · rw [Collection.keys_insert_of_notMem hi]
      exact List.mem_append_left _ h
  · exact h

theorem Replied.removed {c : Call} {r : c.Reply} (h : Replied ids m c r n)
    (hid : id ∈ m.keys kind) (hgone : id ∉ n.keys kind) :
    c = .delete kind id ∧ m.Unlisted id kind := by
  cases h with
  | kept | found | listed => exact absurd hid hgone
  | created | updated => exact absurd (mem_keys_store hid _ _ _) hgone
  | @deleted k i failures hfree =>
    change id ∉ Collection.keys ((m.collections.set k _).get kind) at hgone
    rw [keys_erased] at hgone
    split at hgone
    · rename_i hkind
      subst hkind
      obtain rfl : id = i := by
        by_contra hne
        exact hgone ((List.mem_erase_of_ne hne).2 hid)
      exact ⟨rfl, unlisted_of_referrer? hfree⟩
    · exact absurd hid hgone

/-- What is stored goes only by its own deletion, and only where nothing lists it. -/
theorem removed_by_delete {move : Move} (h : id ∈ m.keys kind)
    (hgone : id ∉ (move.apply ids m).keys kind) :
    move = .call (.delete kind id) ∧ m.Unlisted id kind := by
  cases move with
  | failAfter f => exact absurd h hgone
  | call c =>
    obtain ⟨rfl, hfree⟩ := (replied ids m c).removed h hgone
    exact ⟨rfl, hfree⟩
  | seedPort p =>
    rw [Move.apply, seedPort] at hgone
    cases hp : p.id with
    | some i =>
      rw [hp] at hgone
      exact absurd (mem_keys_store h _ _ _) hgone
    | none =>
      rw [hp] at hgone
      have hdrawn : id ∈ (draw ids m).2.keys kind := h
      exact absurd (mem_keys_store hdrawn _ _ _) hgone

/-- A call that is declined counts for the schedule of failures, and for nothing else. -/
theorem Replied.declined {c : Call} {r : c.Reply} (h : Replied ids m c r n) (hr : c.Declined r) :
    n = { m with failures := n.failures } := by
  cases h with
  | kept failures hvalues => rfl
  | found | listed => rfl
  | created | updated =>
    obtain ⟨e, he⟩ := hr
    cases he
  | deleted failures hfree => cases hr _ rfl

theorem update_others (ids : Nat → String) (m : Memory) (kind : Kind) (id : String) (body : Json) :
    let n := (reply ids (.update kind id body) m).2
    (∀ k, n.keys k = m.keys k) ∧
      ∀ k i, (k, i) ≠ (kind, id) →
        (n.collections.get k).get? i = (m.collections.get k).get? i := by
  have h := replied ids m (.update kind id body)
  generalize (reply ids (.update kind id body) m).1 = r at h
  generalize (reply ids (.update kind id body) m).2 = n at h
  cases h with
  | kept => exact ⟨fun _ ↦ rfl, fun _ _ _ ↦ rfl⟩
  | updated failures hbody hget =>
    refine ⟨fun k ↦ keys_amended hget _ k, fun k i hi ↦ ?_⟩
    have hi : ¬ (k = kind ∧ i = id) := fun h ↦ hi (Prod.ext h.1 h.2)
    exact (get?_store m kind k id i _).trans (if_neg hi)

theorem reply_list_all (m : Memory) (kind : Kind) :
    (reply ids (.list kind []) m).1 =
      match (m.takeFailure kind .list).1 with
      | some f => .error (failed kind .list f)
      | none => .ok (m.snapshot kind) := by
  rw [reply, list, takeFailure]
  rcases Failure.take kind .list m.failures with ⟨_ | f, rest⟩
  · have hall : (m.collections.get kind).values.filter (satisfies · []) =
        (m.collections.get kind).values := List.filter_eq_self.2 fun _ _ ↦ rfl
    dsimp only
    rw [hall]
    rfl
  · rfl

/-- Whatever is done to a memory, each object stands under its own id, once, and in the order of the
arrivals that are left, as a listing shows them; an update changes the object it names and nothing
else; a call that is declined changes nothing; chains are numbered from one; and an object goes only
by its own deletion, where no object lists it. -/
theorem kept_in_order (ids : Nat → String) (project : String) (moves : List Move) :
    let m := moved ids moves { project }
    (∀ kind, ∀ e ∈ m.collections.get kind, e.2.get? "id" = some (.str e.1)) ∧
      (∀ kind, (m.keys kind).Nodup ∧
        m.keys kind = (arrivals ids kind moves { project }).dedup.filter (· ∈ m.keys kind) ∧
        (reply ids (.list kind []) m).1 =
          match (m.takeFailure kind .list).1 with
          | some f => .error (failed kind .list f)
          | none => .ok ((m.collections.get kind).map fun e ↦ ofObject e.2)) ∧
      (∀ kind id body,
        let n := (reply ids (.update kind id body) m).2
        (∀ k, n.keys k = m.keys k) ∧
          (∀ k i, (k, i) ≠ (kind, id) →
            (n.collections.get k).get? i = (m.collections.get k).get? i) ∧
          ∀ value, (n.collections.get kind).get? id = some value →
            value.get? "id" = some (.str id)) ∧
      (∀ c : Call, c.Declined (reply ids c m).1 →
        (reply ids c m).2 = { m with failures := (reply ids c m).2.failures }) ∧
      (∀ (k : Nat) (value : Json), (chains ids moves { project })[k]? = some value →
        value.get? "chain_id" = some (.int ((k + 1) % UInt64.size : Nat))) ∧
      ∀ (move : Move) (kind : Kind) (id : String), id ∈ m.keys kind →
        id ∉ (move.apply ids m).keys kind →
        move = .call (.delete kind id) ∧ m.Unlisted id kind := by
  intro m
  have hstocked : Stocked ids m := stocked_moved ids project moves
  have hkeyed := hstocked.keyed
  refine ⟨fun kind ↦ (hkeyed kind).own, fun kind ↦ ⟨(hkeyed kind).once, ?_, ?_⟩, ?_, ?_, ?_, ?_⟩
  · exact keys_moved project moves kind
  · have hshown : m.snapshot kind = (m.collections.get kind).map fun e ↦ ofObject e.2 :=
      List.map_map
    rw [reply_list_all, hshown]
  · intro kind id body
    obtain ⟨hkeys, hothers⟩ := update_others ids m kind id body
    refine ⟨hkeys, hothers, fun value hget ↦ ?_⟩
    exact (hkeyed.reply (.update kind id body) kind).own_of_get? hget
  · exact fun c hc ↦ (replied ids m c).declined hc
  -- chain numbers have 64 bits and wrap around
  · intro k value hvalue
    have hnumber : ((1 : UInt64) + UInt64.ofNat k).toNat = (k + 1) % UInt64.size := by
      rw [UInt64.toNat_add, UInt64.toNat_ofNat', Nat.add_comm]
      simp
    exact hnumber ▸ get?_chains hvalue
  · exact fun move kind id hid hgone ↦ removed_by_delete hid hgone

/-- A port that is seeded again keeps its place; one that comes back after its deletion goes to the
end. -/
def returns : List Move :=
  [.seedPort { id := some "b" }, .seedPort { id := some "a" }, .seedPort { id := some "b" },
    .call (.delete .port "b"), .call (.update .port "b" .empty), .seedPort { id := some "b" }]

theorem kept_in_order_returns :
    arrivals numberedId .port returns { project := "p" } = ["b", "a", "b"] ∧
      (moved numberedId returns { project := "p" }).keys .port = ["a", "b"] := by
  have horder := ((kept_in_order numberedId "p" returns).2.1 .port).2.1
  exact ⟨by decide +kernel, horder.trans (by decide +kernel)⟩

end Memory

end TrafficSteering
