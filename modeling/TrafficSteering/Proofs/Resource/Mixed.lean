import TrafficSteering.Proofs.Resource.Written

namespace TrafficSteering

open Json

variable {α β : Type}

def Dict.Mixed (d d₁ d₂ : Dict α) : Prop := ∀ k, d.get? k = d₁.get? k ∨ d.get? k = d₂.get? k

/-- Where both of two values can be read, so can the third. -/
def Blends (x₁ x₂ x : Except Fault α) : Prop := x₁.isOk → x₂.isOk → x.isOk

namespace Blends

variable {a₁ a₂ a : α} {x₁ x₂ x : Except Fault α} {f₁ f₂ f : α → Except Fault β}

theorem done : Blends (.ok a₁) (.ok a₂) (.ok a) := fun _ _ ↦ rfl

theorem bind (hx : Blends x₁ x₂ x) (hf : ∀ a₁ a₂ a, Blends (f₁ a₁) (f₂ a₂) (f a)) :
    Blends (x₁ >>= f₁) (x₂ >>= f₂) (x >>= f) := by
  cases x₁ with
  | error _ => exact fun h _ ↦ nomatch h
  | ok a₁ =>
    cases x₂ with
    | error _ => exact fun _ h ↦ nomatch h
    | ok a₂ =>
      cases x with
      | error _ => exact nomatch hx rfl rfl
      | ok a => exact hf a₁ a₂ a

theorem after (h : Blends (f₁ a₁) (f₂ a₂) (f a)) :
    Blends (Except.ok a₁ >>= f₁) (Except.ok a₂ >>= f₂) (Except.ok a >>= f) := h

variable {d d₁ d₂ : Object} (h : d.Mixed d₁ d₂) (name : String)

include h

theorem field (read : Json → Except Fault α) (fallback : α) :
    Blends (withDefault d₁.entries name read fallback) (withDefault d₂.entries name read fallback)
      (withDefault d.entries name read fallback) := by
  have hname : d.entries.lookup name = d₁.entries.lookup name ∨
      d.entries.lookup name = d₂.entries.lookup name := h name
  intro hfirst hsecond
  obtain hname | hname := hname
  · rwa [withDefault, hname]
  · rwa [withDefault, hname]

theorem optional (read : Json → Except Fault α) :
    Blends (optional d₁.entries name read) (optional d₂.entries name read)
      (optional d.entries name read) := field h name _ _

theorem listOrEmpty (read : Json → Except Fault α) :
    Blends (listOrEmpty d₁.entries name read) (listOrEmpty d₂.entries name read)
      (listOrEmpty d.entries name read) := bind (optional h name _) fun _ _ _ ↦ done

end Blends

namespace Kind

theorem decode_mixed {d d₁ d₂ : Object} (h : d.Mixed d₁ d₂) (kind : Kind) :
    Blends (kind.decode (ofObject d₁)) (kind.decode (ofObject d₂)) (kind.decode (ofObject d)) := by
  cases kind
  all_goals
    refine .after ?_
    repeat' first
      | exact .done
      | refine .bind (.optional h _ _) fun _ _ _ ↦ ?_
      | refine .bind (.listOrEmpty h _ _) fun _ _ _ ↦ ?_

theorem mixed_amended (value change : Object) :
    (Memory.amended value change).Mixed value change := by
  intro k
  rw [Memory.amended, Dict.get?_insertAll_entries, Dict.get?_erase]
  split
  · exact .inl rfl
  · cases change.get? k with
    | none => exact .inl rfl
    | some a => exact .inr rfl

theorem decode_amended {kind : Kind} {value : Object} {r : kind.Resource}
    (h : kind.decode (ofObject value) = .ok r) (change : kind.Resource) :
    ∃ r', kind.decode (ofObject (Memory.amended value (kind.encode change))) = .ok r' := by
  have hread : (kind.decode (ofObject (Memory.amended value (kind.encode change)))).isOk := by
    refine decode_mixed (mixed_amended value (kind.encode change)) kind ?_ ?_
    · rw [h]; rfl
    · rw [kind.decode_encode]; rfl
  cases hdecode : kind.decode (ofObject (Memory.amended value (kind.encode change))) with
  | error e => rw [hdecode] at hread; cases hread
  | ok r' => exact ⟨r', rfl⟩

end Kind

def Yields (x : Except Fault α) (P : α → Prop) : Prop := ∀ a, x = .ok a → P a

theorem Yields.done {a : α} {P : α → Prop} (h : P a) : Yields (.ok a) P := by
  intro b hb
  cases hb
  exact h

theorem Yields.bind {x : Except Fault α} {f : α → Except Fault β} {P : β → Prop}
    (h : ∀ a, x = .ok a → Yields (f a) P) : Yields (x >>= f) P := by
  cases x with
  | error _ => exact nofun
  | ok a => exact h a rfl

theorem Kind.idOf_decode {kind : Kind} {d : Object} {id : String}
    (h : d.get? "id" = some (.str id)) {r : kind.Resource}
    (hr : kind.decode (ofObject d) = .ok r) : kind.idOf r = some id := by
  have hid : Json.optional d.entries "id" asText = .ok (some id) :=
    optional_text (x := some id) h
  have hyields : Yields (kind.decode (ofObject d)) fun r ↦ kind.idOf r = some id := by
    cases kind
    all_goals
      refine .bind fun m hm ↦ ?_
      cases hm
      refine .bind fun x hx ↦ ?_
      cases hid.symm.trans hx
      repeat' first
        | exact .done rfl
        | refine .bind fun _ _ ↦ ?_
  exact hyields r hr

theorem Memory.get?_amended_id (value change : Object) :
    (amended value change).get? "id" = value.get? "id" := by
  rw [amended, Dict.get?_insertAll_entries, Dict.get?_erase, if_pos rfl, Option.none_or]

end TrafficSteering
