namespace TrafficSteering

variable {α : Type}

namespace Entries

def insert (key : String) (value : α) : List (String × α) → List (String × α)
  | [] => [(key, value)]
  | e :: rest =>
    if key < e.1 then (key, value) :: e :: rest
    else if key = e.1 then (key, value) :: rest
    else e :: insert key value rest

def erase (key : String) (l : List (String × α)) : List (String × α) := l.filter (·.1 ≠ key)

def Sorted (l : List (String × α)) : Prop := l.Pairwise (·.1 < ·.1)

instance (l : List (String × α)) : Decidable (Sorted l) :=
  inferInstanceAs (Decidable (l.Pairwise (·.1 < ·.1)))

theorem lookup_cons (k : String) (e : String × α) (l : List (String × α)) :
    (e :: l).lookup k = if k = e.1 then some e.2 else l.lookup k := by
  obtain ⟨a, b⟩ := e
  rw [List.lookup_cons]
  by_cases h : k = a
  · simp [h]
  · simp [h, beq_false_of_ne h]

theorem lookup_insert (key k : String) (value : α) (l : List (String × α)) :
    (insert key value l).lookup k = if k = key then some value else l.lookup k := by
  induction l with
  | nil => simp [insert, lookup_cons]
  | cons e rest ih =>
    rw [insert]
    split
    · rw [lookup_cons]
    · split
      · rename_i he
        simp only [lookup_cons, ← he]
        split <;> rfl
      · rename_i he
        by_cases h : k = e.1
        · subst h; simp [lookup_cons, Ne.symm he]
        · simp [lookup_cons, h, ih]

theorem lookup_erase (key k : String) (l : List (String × α)) :
    (erase key l).lookup k = if k = key then none else l.lookup k := by
  induction l with
  | nil => simp [erase]
  | cons e rest ih =>
    by_cases he : e.1 = key
    · rw [erase, List.filter_cons_of_neg (by simpa using he), lookup_cons, he]
      split
      · rename_i h; simpa [h, erase] using ih
      · rename_i h; simpa [h, erase] using ih
    · rw [erase, List.filter_cons_of_pos (by simpa using he), lookup_cons, lookup_cons]
      by_cases hk : k = e.1
      · simp [hk, he]
      · simpa [hk, erase] using ih

theorem mem_insert {key : String} {value : α} {l : List (String × α)} {e : String × α}
    (h : e ∈ insert key value l) : e = (key, value) ∨ e ∈ l := by
  induction l with
  | nil => simpa [insert] using h
  | cons d rest ih =>
    rw [insert] at h
    split at h
    · simpa using h
    · split at h
      · rcases List.mem_cons.1 h with h | h <;> simp [h]
      · rcases List.mem_cons.1 h with h | h
        · simp [h]
        · rcases ih h with h | h <;> simp [h]

theorem Sorted.insert {l : List (String × α)} (h : Sorted l) (key : String) (value : α) :
    Sorted (insert key value l) := by
  induction l with
  | nil => simp [Entries.insert, Sorted]
  | cons e rest ih =>
    obtain ⟨hall, hrest⟩ := List.pairwise_cons.1 h
    rw [Entries.insert]
    split
    · rename_i hk
      refine List.pairwise_cons.2 ⟨fun d hd ↦ ?_, h⟩
      rcases List.mem_cons.1 hd with rfl | hd
      · exact hk
      · exact String.lt_trans hk (hall d hd)
    · split
      · rename_i hk
        exact List.pairwise_cons.2 ⟨fun d hd ↦ hk ▸ hall d hd, hrest⟩
      · rename_i hlt hne
        refine List.pairwise_cons.2 ⟨fun d hd ↦ ?_, ih hrest⟩
        rcases mem_insert hd with rfl | hd
        · rcases Std.lt_trichotomy e.1 key with h | h | h
          · exact h
          · exact absurd h.symm hne
          · exact absurd h hlt
        · exact hall d hd

theorem Sorted.erase {l : List (String × α)} (h : Sorted l) (key : String) :
    Sorted (erase key l) := List.Pairwise.filter _ h

theorem lookup_eq_none {l : List (String × α)} {k : String} (h : ∀ e ∈ l, k < e.1) :
    l.lookup k = none := by
  induction l with
  | nil => rfl
  | cons e rest ih =>
    have hk : ¬ k = e.1 := fun hk ↦ String.lt_irrefl k (hk ▸ h e (by simp))
    rw [lookup_cons, if_neg hk, ih fun d hd ↦ h d (by simp [hd])]

theorem Sorted.ext {l m : List (String × α)} (hl : Sorted l) (hm : Sorted m)
    (h : ∀ k, l.lookup k = m.lookup k) : l = m := by
  induction l generalizing m with
  | nil =>
    cases m with
    | nil => rfl
    | cons e rest => simpa [lookup_cons] using h e.1
  | cons d l ih =>
    obtain ⟨hd, hl⟩ := List.pairwise_cons.1 hl
    cases m with
    | nil => simpa [lookup_cons] using h d.1
    | cons e m =>
      obtain ⟨he, hm⟩ := List.pairwise_cons.1 hm
      -- the smaller of the two first keys would be missing from the other list
      have hkey : d.1 = e.1 := by
        rcases Std.lt_trichotomy d.1 e.1 with hlt | heq | hlt
        · have hnone := lookup_eq_none (l := e :: m) (k := d.1) fun x hx ↦ by
            rcases List.mem_cons.1 hx with rfl | hx
            · exact hlt
            · exact String.lt_trans hlt (he x hx)
          have := h d.1
          rw [hnone] at this
          simp [lookup_cons] at this
        · exact heq
        · have hnone := lookup_eq_none (l := d :: l) (k := e.1) fun x hx ↦ by
            rcases List.mem_cons.1 hx with rfl | hx
            · exact hlt
            · exact String.lt_trans hlt (hd x hx)
          have := h e.1
          rw [hnone] at this
          simp [lookup_cons] at this
      have hvalue : d.2 = e.2 := by simpa [lookup_cons, hkey] using h d.1
      have htail : l = m := ih hl hm fun k ↦ by
        by_cases hk : k = d.1
        · rw [hk, lookup_eq_none hd, hkey, lookup_eq_none he]
        · have hk' : ¬ k = e.1 := fun h ↦ hk (h.trans hkey.symm)
          simpa [lookup_cons, hk, hk'] using h k
      rw [htail, Prod.ext hkey hvalue]

end Entries

/-- Entries in strictly increasing order of their keys, so that an entry that is set and removed
again leaves no trace. -/
structure Dict (α : Type) where
  entries : List (String × α)
  sorted : Entries.Sorted entries

namespace Dict

instance : Inhabited (Dict α) := ⟨⟨[], .nil⟩⟩

instance [DecidableEq α] : DecidableEq (Dict α) := fun a b ↦
  if h : a.entries = b.entries then
    isTrue (by cases a; cases b; cases h; rfl)
  else
    isFalse fun e ↦ h (e ▸ rfl)

def empty : Dict α := ⟨[], .nil⟩

def get? (d : Dict α) (key : String) : Option α := d.entries.lookup key

def insert (d : Dict α) (key : String) (value : α) : Dict α :=
  ⟨Entries.insert key value d.entries, d.sorted.insert key value⟩

def erase (d : Dict α) (key : String) : Dict α := ⟨Entries.erase key d.entries, d.sorted.erase key⟩

def insertNew (d : Dict α) (key : String) (value : α) : Dict α :=
  if (d.get? key).isSome then d else d.insert key value

/-- Sets every entry of the list in turn, so that of two with one key the later stays. -/
def insertAll (d : Dict α) (l : List (String × α)) : Dict α :=
  l.foldl (fun d e ↦ d.insert e.1 e.2) d

def ofList (l : List (String × α)) : Dict α := empty.insertAll l

def ofFields (l : List (String × Option α)) : Dict α :=
  ofList (l.filterMap fun e ↦ e.2.map (e.1, ·))

@[simp] theorem get?_empty (k : String) : (empty : Dict α).get? k = none := rfl

@[simp] theorem get?_insert (d : Dict α) (key k : String) (value : α) :
    (d.insert key value).get? k = if k = key then some value else d.get? k :=
  Entries.lookup_insert key k value d.entries

@[simp] theorem get?_erase (d : Dict α) (key k : String) :
    (d.erase key).get? k = if k = key then none else d.get? k :=
  Entries.lookup_erase key k d.entries

@[ext] theorem ext {a b : Dict α} (h : ∀ k, a.get? k = b.get? k) : a = b := by
  cases a with
  | mk l hl =>
    cases b with
    | mk m hm =>
      have : l = m := hl.ext hm h
      subst this
      rfl

end Dict

end TrafficSteering
