import TrafficSteering.Proofs.Engine.Histories

namespace TrafficSteering

open Engine

variable {α : Type}

def present (value : Option String) : Bool := value.any fun text ↦ !Text.blank text

namespace Guard

theorem requireText_eq (value : Option String) (name : String) :
    requireText value name =
      if present value then .ok (value.getD "") else .error (.invalidArgument name) := by
  cases value with
  | none => rfl
  | some text => cases h : Text.blank text <;> simp [requireText, present, h]

theorem groupIds_eq (groups : List NetworkElement) :
    groupIds groups =
      if groups.all fun g ↦ present g.elementId then .ok (groups.map fun g ↦ g.elementId.getD "")
      else .error (.invalidArgument "Port Pair Group Id") := by
  induction groups with
  | nil => rfl
  | cons g rest ih =>
    rw [groupIds] at ih ⊢
    rw [List.mapM_cons, requireText_eq, ih, List.all_cons]
    cases present g.elementId with
    | false => rfl
    | true => cases rest.all fun g ↦ present g.elementId <;> rfl

end Guard

theorem ne_of_present {value : Option String} (h : present value = true) :
    value.getD "" ≠ "" := by
  cases value with
  | none => cases h
  | some text =>
    rintro (rfl : text = "")
    simp [present, Text.blank_empty] at h

/-- The program ends with the first check that is not passed, blaming that argument. Past all of
them, `Q` tells of what is left of it. -/
def Guarded (Q : Program α → Prop) : List (String × Bool) → Program α → Prop
  | [], p => Q p
  | (_, true) :: rest, p => Guarded Q rest p
  | (name, false) :: _, p => p = .fail (.invalidArgument name)

namespace Guarded

variable {Q : Program α → Prop} {checks : List (String × Bool)} {p : Program α}

theorem done (h : Q p) : Guarded Q [] p := h

theorem text {value : Option String} {name : String} {f : String → Program α}
    (h : ∀ id ∈ value, id ≠ "" → Guarded Q checks (f id)) :
    Guarded Q ((name, present value) :: checks)
      (liftM (Guard.requireText value name) >>= f) := by
  rw [Guard.requireText_eq]
  cases hvalue : present value with
  | false => exact rfl
  | true =>
    obtain ⟨id, rfl⟩ : ∃ id, value = some id := by
      cases value with
      | none => cases hvalue
      | some id => exact ⟨id, rfl⟩
    exact h id rfl (ne_of_present hvalue)

theorem nonempty {γ : Type} {items : List γ} {name : String} {f : Unit → Program α}
    (h : Guarded Q checks (f ())) :
    Guarded Q ((name, !items.isEmpty) :: checks)
      (liftM (Guard.requireSome items name) >>= f) := by
  cases items with
  | nil => exact rfl
  | cons a rest => exact h

theorem uniform {name : String} {passed : List Bool} :
    Guarded Q (passed.map fun b ↦ (name, b)) p ↔
      if passed.all id then Q p else p = .fail (.invalidArgument name) := by
  induction passed with
  | nil => exact Iff.rfl
  | cons b rest ih =>
    cases b with
    | false => exact Iff.rfl
    | true => exact ih

theorem groupIds {groups : List NetworkElement} {f : List String → Program α}
    (h : ∀ ids : List String, (∀ id ∈ ids, id ≠ "") → Q (f ids)) :
    Guarded Q (groups.map fun g ↦ ("Port Pair Group Id", present g.elementId))
      (liftM (Guard.groupIds groups) >>= f) := by
  have hmap : (groups.map fun g ↦ ("Port Pair Group Id", present g.elementId)) =
      (groups.map fun g ↦ present g.elementId).map fun b ↦ ("Port Pair Group Id", b) := by
    rw [List.map_map]
    rfl
  rw [hmap, uniform, List.all_map, Guard.groupIds_eq]
  change if (groups.all fun g ↦ present g.elementId) then _ else _
  cases hall : groups.all fun g ↦ present g.elementId with
  | false => exact rfl
  | true =>
    refine h _ fun id hid ↦ ?_
    obtain ⟨g, hg, rfl⟩ := List.mem_map.1 hid
    exact ne_of_present (List.all_eq_true.1 hall g hg)

theorem refused (h : Guarded Q checks p) {check : String × Bool}
    (hfirst : (checks.find? fun c ↦ !c.2) = some check) :
    p = .fail (.invalidArgument check.1) := by
  induction checks with
  | nil => cases hfirst
  | cons c rest ih =>
    obtain ⟨name, passed⟩ := c
    cases passed with
    | false =>
      cases hfirst
      exact h
    | true => exact ih h hfirst

theorem passed (h : Guarded Q checks p) (hnone : (checks.find? fun c ↦ !c.2) = none) : Q p := by
  induction checks with
  | nil => exact h
  | cons c rest ih =>
    obtain ⟨name, passed⟩ := c
    cases passed with
    | false => cases hnone
    | true => exact ih h hnone

end Guarded

namespace Engine.Request

/-- The checks of a request in their order, each with whether it is passed. -/
def checks : Request → List (String × Bool)
  | getInspectionPort _ | removeInspectionPort _ => []
  | registerInspectionPort port =>
    [("Ingress port", present port.ingressId), ("Egress port", present port.egressId)]
  | installHook inspected chain =>
    [("Inspected port", present inspected.id), ("Inspection port", present chain.id)]
  | updateHook hook =>
    [("Inspection Hook Id", present hook.hookId),
      ("Inspected port", present hook.inspectedPort.elementId),
      ("Inspection port", present hook.chain.elementId)]
  | removeHook hook | getHook hook => [("Inspection Hook Id", present (some hook))]
  | registerChain groups =>
    ("Port Pair Group member list", !groups.isEmpty) ::
      groups.map fun g ↦ ("Port Pair Group Id", present g.elementId)
  | updateChain chain groups =>
    ("Port Pair Group Service Function Chain Id", present chain.id) ::
      ("Port Pair Group update member list", !groups.isEmpty) ::
        groups.map fun g ↦ ("Port Pair Group Id", present g.elementId)
  | deleteChain chain | getChain chain => [("Service Function Chain Id", present chain.id)]

def missing? (r : Request) : Option String := (r.checks.find? fun c ↦ !c.2).map Prod.fst

end Engine.Request

end TrafficSteering
