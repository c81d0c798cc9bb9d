import TrafficSteering.Json.Record

namespace TrafficSteering

variable {α : Type}

namespace Entries

theorem lookup_eq_none_of_notMem {k : String} {l : List (String × α)}
    (h : k ∉ l.map Prod.fst) : l.lookup k = none := by
  induction l with
  | nil => rfl
  | cons e rest ih =>
    obtain ⟨hne, hrest⟩ := not_or.1 (mt List.mem_cons.2 h)
    rw [lookup_cons, if_neg hne, ih hrest]

theorem lookup_present {l : List (String × Option α)} (h : (l.map Prod.fst).Nodup) (k : String) :
    (l.filterMap fun e ↦ e.2.map (e.1, ·)).lookup k = (l.lookup k).join := by
  induction l with
  | nil => rfl
  | cons e rest ih =>
    obtain ⟨hhead, hrest⟩ := List.nodup_cons.1 h
    obtain ⟨name, value⟩ := e
    rw [lookup_cons]
    cases value with
    | none =>
      rw [List.filterMap_cons_none rfl, ih hrest]
      split
      · rename_i hk
        rw [hk, lookup_eq_none_of_notMem hhead]
        rfl
      · rfl
    | some a =>
      have hcons : (((name, some a) :: rest).filterMap fun e ↦ e.2.map (e.1, ·)) =
          (name, a) :: rest.filterMap fun e ↦ e.2.map (e.1, ·) := rfl
      rw [hcons, lookup_cons, ih hrest]
      split <;> rfl

/-- Two lists with the same fields, the values of the second before those of the first. -/
theorem join_lookup_zipWith {l m : List (String × Option α)}
    (h : l.map Prod.fst = m.map Prod.fst) (k : String) :
    ((List.zipWith (fun a b ↦ (a.1, b.2.or a.2)) l m).lookup k).join =
      (m.lookup k).join.or (l.lookup k).join := by
  induction l generalizing m with
  | nil =>
    have hm : m = [] := by simpa using h.symm
    subst hm
    rfl
  | cons a l ih =>
    cases m with
    | nil => simp at h
    | cons b m =>
      obtain ⟨hab, hlm⟩ := List.cons.inj h
      rw [List.zipWith_cons_cons, lookup_cons, lookup_cons, lookup_cons]
      by_cases hk : k = a.1
      · simp [hk, hab]
      · have hb : k ≠ b.1 := fun hb ↦ hk (hb.trans hab.symm)
        simp only [hk, hb, if_false]
        exact ih hlm

theorem map_fst_zipWith {l m : List (String × Option α)} (h : l.map Prod.fst = m.map Prod.fst) :
    (List.zipWith (fun a b ↦ (a.1, b.2.or a.2)) l m).map Prod.fst = l.map Prod.fst := by
  induction l generalizing m with
  | nil => rfl
  | cons a l ih =>
    cases m with
    | nil => simp at h
    | cons b m => rw [List.zipWith_cons_cons, List.map_cons, ih (List.cons.inj h).2, List.map_cons]

theorem join_lookup_set (l : List (String × Option α)) (key k : String) (value : α) :
    ((l.map fun e ↦ if e.1 = key then (e.1, some value) else e).lookup k).join =
      if k = key ∧ key ∈ l.map Prod.fst then some value else (l.lookup k).join := by
  induction l with
  | nil => simp
  | cons e rest ih =>
    simp only [List.map_cons, lookup_cons, List.mem_cons]
    by_cases he : e.1 = key
    · by_cases hk : k = key
      · simp [he, hk]
      · simp [he, hk, ih]
    · by_cases hk : k = e.1
      · subst hk
        simp [he]
      · have hkey : (key = e.1 ∨ key ∈ rest.map Prod.fst) ↔ key ∈ rest.map Prod.fst :=
          or_iff_right fun h ↦ he h.symm
        simp only [he, hk, hkey, ih, if_false]

theorem Sorted.nodup_keys {l : List (String × α)} (h : Sorted l) : (l.map Prod.fst).Nodup := by
  refine List.pairwise_map.2 (h.imp fun {a b} hab he ↦ ?_)
  exact String.lt_irrefl b.1 (he ▸ hab)

end Entries

namespace Dict

theorem get?_insertAll {l : List (String × α)} (h : (l.map Prod.fst).Nodup) (d : Dict α)
    (k : String) : (d.insertAll l).get? k = (l.lookup k).or (d.get? k) := by
  induction l generalizing d with
  | nil => rfl
  | cons e rest ih =>
    obtain ⟨hhead, hrest⟩ := List.nodup_cons.1 h
    have hstep : (d.insertAll (e :: rest)).get? k =
        (rest.lookup k).or ((d.insert e.1 e.2).get? k) :=
      ih hrest (d.insert e.1 e.2)
    rw [hstep, get?_insert, Entries.lookup_cons]
    split
    · rename_i hk
      rw [hk, Entries.lookup_eq_none_of_notMem hhead]
      rfl
    · rfl

theorem get?_insertAll_entries (d change : Dict α) (k : String) :
    (d.insertAll change.entries).get? k = (change.get? k).or (d.get? k) :=
  get?_insertAll change.sorted.nodup_keys d k

theorem ofList_entries (d : Dict α) : ofList d.entries = d := by
  ext1 k
  rw [ofList, get?_insertAll_entries, get?_empty, Option.or_none]

theorem get?_ofFields {l : List (String × Option α)} (h : (l.map Prod.fst).Nodup) (k : String) :
    (ofFields l).get? k = (l.lookup k).join := by
  have hkeys : ((l.filterMap fun e ↦ e.2.map (e.1, ·)).map Prod.fst).Nodup := by
    refine List.Nodup.sublist ?_ h
    induction l with
    | nil => exact .slnil
    | cons e rest ih =>
      obtain ⟨name, value⟩ := e
      cases value with
      | none => exact .cons _ (ih (List.nodup_cons.1 h).2)
      | some a => exact .cons_cons _ (ih (List.nodup_cons.1 h).2)
  rw [ofFields, ofList, get?_insertAll hkeys, get?_empty, Option.or_none, Entries.lookup_present h]

theorem insert_ofFields {l : List (String × Option α)} (h : (l.map Prod.fst).Nodup) {key : String}
    (hkey : key ∈ l.map Prod.fst) (value : α) :
    (ofFields l).insert key value =
      ofFields (l.map fun e ↦ if e.1 = key then (e.1, some value) else e) := by
  have hkeys : (l.map fun e ↦ if e.1 = key then (e.1, some value) else e).map Prod.fst =
      l.map Prod.fst := by
    rw [List.map_map]
    refine List.map_congr_left fun e _ ↦ ?_
    simp only [Function.comp_apply]
    split <;> rfl
  ext1 k
  rw [get?_insert, get?_ofFields h, get?_ofFields (hkeys ▸ h), Entries.join_lookup_set]
  simp only [hkey, and_true]

/-- A change without `key` leaves that field alone and overrides the others that it sets. -/
theorem insertAll_ofFields {l m : List (String × Option α)} (h : l.map Prod.fst = m.map Prod.fst)
    (hl : (l.map Prod.fst).Nodup) {key : String} (hkey : (m.lookup key).join = none) :
    (ofFields l).insertAll ((ofFields m).erase key).entries =
      ofFields (List.zipWith (fun a b ↦ (a.1, b.2.or a.2)) l m) := by
  have hz := Entries.map_fst_zipWith h
  ext1 k
  rw [get?_insertAll_entries, get?_erase, get?_ofFields hl, get?_ofFields (h ▸ hl),
    get?_ofFields (hz ▸ hl), Entries.join_lookup_zipWith h]
  by_cases hk : k = key
  · rw [hk, hkey, if_pos rfl]
  · rw [if_neg hk]

end Dict

namespace Json

variable {d : Object} {name : String}

theorem optional_text {x : Option String} (h : d.get? name = x.map .str) :
    optional d.entries name asText = .ok x := by
  have hl : d.entries.lookup name = x.map .str := h
  cases x <;> simp [optional, withDefault, hl, asOption, asText, Functor.map, Except.map]

theorem optional_object {x : Option Object} (h : d.get? name = x.map ofObject) :
    optional d.entries name asObject = .ok x := by
  have hl : d.entries.lookup name = x.map ofObject := h
  cases x with
  | none => simp [optional, withDefault, hl]
  | some o =>
    simp only [optional, withDefault, hl, Option.map_some, ofObject, asOption, asObject,
      Dict.ofList_entries]
    rfl

theorem optional_word {x : Option UInt64} (h : d.get? name = x.map fun n ↦ .int n.toNat) :
    optional d.entries name asWord = .ok x := by
  have hl : d.entries.lookup name = x.map fun n ↦ .int n.toNat := h
  cases x with
  | none => simp [optional, withDefault, hl]
  | some n =>
    have hsize : (n.toNat : Int) < UInt64.size := by exact_mod_cast n.toNat_lt
    simp only [optional, withDefault, hl, Option.map_some, asOption, asWord, Int.natCast_nonneg,
      hsize, and_self, if_true, Int.toNat_natCast, UInt64.ofNat_toNat]
    rfl

section

variable {β : Type} (write : β → Json) {read : Json → Except Fault β}

theorem mapM_written (h : ∀ b, read (write b) = .ok b) (l : List β) :
    (l.map write).mapM read = .ok l := by
  induction l with
  | nil => rfl
  | cons b rest ih => rw [List.map_cons, List.mapM_cons, h, ih]; rfl

theorem listOrEmpty_written (h : ∀ b, read (write b) = .ok b) {l : List β}
    (hl : d.get? name = some (.arr (l.map write))) : listOrEmpty d.entries name read = .ok l := by
  have hl : d.entries.lookup name = some (.arr (l.map write)) := hl
  simp only [listOrEmpty, optional, withDefault, hl, asOption, asList, mapM_written write h]
  rfl

theorem listOrEmpty_unless_empty (h : ∀ b, read (write b) = .ok b) {l : List β}
    (hl : d.get? name = if l.isEmpty then none else some (.arr (l.map write))) :
    listOrEmpty d.entries name read = .ok l := by
  cases l with
  | nil =>
    have hl : d.entries.lookup name = none := hl
    simp only [listOrEmpty, optional, withDefault, hl]
    rfl
  | cons b rest => exact listOrEmpty_written write h hl

end

theorem listOrEmpty_texts {l : List String} (h : d.get? name = some (texts l)) :
    listOrEmpty d.entries name asText = .ok l := listOrEmpty_written .str (fun _ ↦ rfl) h

theorem get?_of_optional_text {x : Option String}
    (h : optional d.entries name asText = .ok x) {y : Json} (hy : x.map .str = some y) :
    d.get? name = some y := by
  obtain ⟨text, rfl, rfl⟩ := Option.map_eq_some_iff.1 hy
  rw [optional, withDefault, ← Dict.get?] at h
  cases hname : d.get? name with
  | none =>
    rw [hname] at h
    cases h
  | some value =>
    rw [hname] at h
    cases value with
    | str text' =>
      cases h
      rfl
    | _ => cases h

theorem get?_of_optional_object {x : Object} (h : optional d.entries name asObject = .ok (some x)) :
    ∃ value, d.get? name = some value ∧ value.object? = some x := by
  rw [optional, withDefault, ← Dict.get?] at h
  cases hname : d.get? name with
  | none =>
    rw [hname] at h
    cases h
  | some value =>
    rw [hname] at h
    cases value with
    | obj members =>
      cases h
      exact ⟨_, rfl, rfl⟩
    | _ => cases h

theorem mem_of_mapM_asText {items : List Json} {l : List String} (h : items.mapM asText = .ok l)
    {text : String} (htext : text ∈ l) : .str text ∈ items := by
  induction items generalizing l with
  | nil =>
    cases h
    cases htext
  | cons item rest ih =>
    rw [List.mapM_cons] at h
    cases item with
    | str first =>
      cases hrest : rest.mapM asText with
      | error e =>
        rw [hrest] at h
        cases h
      | ok others =>
        rw [hrest] at h
        cases h
        obtain rfl | htext := List.mem_cons.1 htext
        · exact List.mem_cons_self
        · exact List.mem_cons_of_mem _ (ih hrest htext)
    | _ => cases h

theorem get?_of_listOrEmpty_text {l : List String}
    (h : listOrEmpty d.entries name asText = .ok l) {text : String} (htext : text ∈ l) :
    ∃ items, d.get? name = some (.arr items) ∧ .str text ∈ items := by
  rw [listOrEmpty, optional, withDefault, ← Dict.get?] at h
  cases hname : d.get? name with
  | none =>
    rw [hname] at h
    cases h
    cases htext
  | some value =>
    rw [hname] at h
    cases value with
    | null =>
      cases h
      cases htext
    | arr items =>
      cases hitems : items.mapM asText with
      | error e =>
        simp only [asOption, asList, hitems] at h
        cases h
      | ok texts =>
        simp only [asOption, asList, hitems] at h
        cases h
        exact ⟨items, rfl, mem_of_mapM_asText hitems htext⟩
    | _ => cases h

end Json

end TrafficSteering
