import TrafficSteering.Proofs.Service.Calls

namespace TrafficSteering

open Json

section

variable {α : Type}

def Entries.unset (names : List String) (l : List (String × Option α)) :
    List (String × Option α) :=
  l.map fun e ↦ if e.1 ∈ names then (e.1, none) else e

theorem Entries.map_fst_unset (names : List String) (l : List (String × Option α)) :
    (unset names l).map Prod.fst = l.map Prod.fst := by
  rw [unset, List.map_map]
  refine List.map_congr_left fun e _ ↦ ?_
  simp only [Function.comp_apply]
  split <;> rfl

theorem Entries.join_lookup_unset (names : List String) (l : List (String × Option α))
    (k : String) :
    ((unset names l).lookup k).join = if k ∈ names then none else (l.lookup k).join := by
  induction l with
  | nil => simp [unset]
  | cons e rest ih =>
    rw [unset, List.map_cons, ← unset, lookup_cons, lookup_cons]
    by_cases hk : k = e.1
    · subst hk
      by_cases he : e.1 ∈ names <;> simp [he]
    · have hfirst : k ≠ (if e.1 ∈ names then (e.1, none) else e).1 := by split <;> exact hk
      rw [if_neg hfirst, if_neg hk, ih]

theorem Dict.get?_ofFields_unset {l : List (String × Option α)} (h : (l.map Prod.fst).Nodup)
    (names : List String) (k : String) :
    (ofFields (Entries.unset names l)).get? k =
      if k ∈ names then none else (ofFields l).get? k := by
  have hkeys := Entries.map_fst_unset names l
  rw [get?_ofFields (hkeys ▸ h), get?_ofFields h, Entries.join_lookup_unset]

end

namespace Kind

/-- What the service sets of a resource, and nobody else. -/
def serverFields : Kind → List String
  | port => ["id", "project_id", "tenant_id", "status"]
  | portPair | flowClassifier => ["id", "project_id", "tenant_id"]
  | portPairGroup => ["id", "project_id", "tenant_id", "port_pair_group_parameters"]
  | portChain => ["id", "project_id", "tenant_id", "chain_id", "chain_parameters"]

theorem get?_encode_clear (kind : Kind) (r : kind.Resource) (k : String) :
    (kind.encode (kind.clearServerFields r)).get? k =
      if k ∈ kind.serverFields then none else (kind.encode r).get? k := by
  have hunset {l l' : List (String × Option Json)} (h : (l.map Prod.fst).Nodup)
      (hl : l' = Entries.unset kind.serverFields l) :
      (Dict.ofFields l').get? k =
        if k ∈ kind.serverFields then none else (Dict.ofFields l).get? k :=
    hl ▸ Dict.get?_ofFields_unset h kind.serverFields k
  cases kind with
  | port => exact hunset (by simp) rfl
  | portPair => exact hunset (by simp) rfl
  | portPairGroup => exact hunset (by simp) rfl
  | portChain => exact hunset (by simp) rfl
  | flowClassifier => exact hunset (by simp) rfl

end Kind

namespace Gateway

variable {σ : Type} (kind : Kind)

def reading (operation : Operation) : Option Json → Except Error kind.Resource
  | none | some .null => .error (nullResult kind operation)
  | some value =>
    match kind.decode value with
    | .ok r => if (kind.idOf r).isNone then .error (nullResult kind operation) else .ok r
    | .error fault => .error (.json fault)

def outcome (operation : Operation) :
    Except TransportError (Option Json) → Except Error kind.Resource
  | .ok found => reading kind operation found
  | .error e => .error (callFailure kind operation e)

/-- A successful answer without a resource, or with one that has no id. -/
inductive Vacant : Option Json → Prop
  | empty : Vacant none
  | null : Vacant (some .null)
  | anonymous {value : Json} {r : kind.Resource} (hr : kind.decode value = .ok r)
      (hid : kind.idOf r = none) : Vacant (some value)

variable {kind} {operation : Operation}

theorem reading_vacant {found : Option Json} (h : Vacant kind found) :
    reading kind operation found = .error (nullResult kind operation) := by
  cases h with
  | empty | null => rfl
  | @anonymous value r hr hid => cases value <;> simp [reading, hr, hid]

theorem idOf_outcome {x : Except TransportError (Option Json)} {r : kind.Resource}
    (h : outcome kind operation x = .ok r) : kind.idOf r ≠ none := by
  obtain e | found := x
  · cases h
  rw [outcome] at h
  unfold reading at h
  split at h
  · cases h
  · cases h
  · split at h
    · split at h
      · cases h
      · rename_i hid
        cases h
        exact fun hnone ↦ hid (hnone ▸ rfl)
    · cases h

theorem run_decodeResult (t : Transport σ) (s : σ) (found : Option Json) :
    (decodeResult kind operation found).run t s = (reading kind operation found, s) := by
  unfold decodeResult
  split
  · rfl
  · rfl
  · rename_i value hnull
    rw [decode, reading]
    · cases kind.decode value with
      | ok r =>
        change (if (kind.idOf r).isNone then _ else _ : Program kind.Resource).run t s = _
        dsimp only
        split <;> rfl
      | error fault => rfl
    · exact hnull

theorem run_create (t : Transport σ) (s : σ) (r : kind.Resource) :
    (create kind r).run t s = (outcome kind .create (t.reply (.create kind (body kind r)) s).1,
      (t.reply (.create kind (body kind r)) s).2) := by
  simp only [create, Program.create, bind, Program.bind, Program.run]
  obtain ⟨e | found, s'⟩ := t.reply (.create kind (body kind r)) s
  · rfl
  · exact run_decodeResult t s' found

theorem run_update (t : Transport σ) (s : σ) {id : String} (hid : id ≠ "") (r : kind.Resource) :
    (update kind id r).run t s =
      (outcome kind .update (t.reply (.update kind id (body kind r)) s).1,
        (t.reply (.update kind id (body kind r)) s).2) := by
  simp only [update, requireId, if_neg hid, Program.update, bind, Program.bind, Program.run]
  obtain ⟨e | found, s'⟩ := t.reply (.update kind id (body kind r)) s
  · rfl
  · exact run_decodeResult t s' found

theorem run_blank {α : Type} (t : Transport σ) (s : σ) (f : Unit → Program α) :
    (requireId kind "" >>= f).run t s =
      (.error (.invalidArgument (kind.displayName ++ " Id")), s) := rfl

/-- Whatever answers the calls: a create or an update makes one call, its body holds the resource
without the fields of the service and nothing else, and it gives a resource with an id, or else an
error that says so; and an empty id is an error without any call. -/
theorem client_fields_sent (t : Transport σ) (s : σ) (calls : List Call) (kind : Kind)
    (r : kind.Resource) {id : String} (hid : id ≠ "") :
    (((create kind r).run t.recorded (s, calls)).2.2 = .create kind (body kind r) :: calls ∧
      ((update kind id r).run t.recorded (s, calls)).2.2 =
        .update kind id (body kind r) :: calls) ∧
    ((∀ k, (body kind r).get? k =
        if k ∈ kind.serverFields then none else (kind.encode r).get? k) ∧
      kind.decode (body kind r) = .ok (kind.clearServerFields r)) ∧
    ((∀ x, ((create kind r).run t s).1 = .ok x → kind.idOf x ≠ none) ∧
      ∀ x, ((update kind id r).run t s).1 = .ok x → kind.idOf x ≠ none) ∧
    ((∀ found, (t.reply (.create kind (body kind r)) s).1 = .ok found → Vacant kind found →
        ((create kind r).run t s).1 = .error (.nullResult .create kind.displayName)) ∧
      ∀ found, (t.reply (.update kind id (body kind r)) s).1 = .ok found → Vacant kind found →
        ((update kind id r).run t s).1 = .error (.nullResult .update kind.displayName)) ∧
    (get kind "").run t.recorded (s, calls) =
      (.error (.invalidArgument (kind.displayName ++ " Id")), s, calls) ∧
    (update kind "" r).run t.recorded (s, calls) =
      (.error (.invalidArgument (kind.displayName ++ " Id")), s, calls) ∧
    (delete kind "").run t.recorded (s, calls) =
      (.error (.invalidArgument (kind.displayName ++ " Id")), s, calls) ∧
    (deleteRaw kind "").run t.recorded (s, calls) =
      (.error (.invalidArgument (kind.displayName ++ " Id")), s, calls) := by
  -- each call is run once and for all, whatever the transport, by `run_create` and `run_update`
  refine ⟨⟨?_, ?_⟩, ⟨kind.get?_encode_clear r, kind.decode_encode _⟩, ⟨?_, ?_⟩, ⟨?_, ?_⟩,
    run_blank _ _ _, run_blank _ _ _, rfl, run_blank _ _ _⟩
  · rw [run_create]
    rfl
  · rw [run_update _ _ hid]
    rfl
  · intro x hx
    rw [run_create] at hx
    exact idOf_outcome hx
  · intro x hx
    rw [run_update _ _ hid] at hx
    exact idOf_outcome hx
  · intro found hfound hvacant
    rw [run_create, hfound]
    exact reading_vacant hvacant
  · intro found hfound hvacant
    rw [run_update _ _ hid, hfound]
    exact reading_vacant hvacant

def echo : Transport Unit where
  name := "echo"
  reply c s :=
    match c with
    | .create _ body | .update _ _ body => (.ok (some body), s)
    | .get _ _ => (.ok none, s)
    | .list _ _ => (.ok [], s)
    | .delete _ _ => (.ok .success, s)
  draw s := ("", s)

/-- A chain that was read is sent back without its id and its number. -/
theorem client_fields_sent_echo :
    let chain : PortChain := { id := some "c", chainId := some 7, portPairGroups := ["g"] }
    "c" ≠ "" ∧ (body .portChain chain).get? "chain_id" = none ∧
      ((update .portChain "c" chain).run echo ()).1 =
        .error (.nullResult .update "Port Chain") := by
  intro chain
  have hid : "c" ≠ "" := by decide
  obtain ⟨-, ⟨hfields, hread⟩, -, ⟨-, hvacant⟩, -⟩ :=
    client_fields_sent echo () [] .portChain chain hid
  exact ⟨hid, hfields "chain_id", hvacant _ rfl (.anonymous hread rfl)⟩

end Gateway

end TrafficSteering
