import TrafficSteering.Element
import TrafficSteering.Error
import TrafficSteering.Text.Blank

namespace TrafficSteering.Guard

/-- An argument is missing when it is absent or blank. -/
def requireText (value : Option String) (name : String) : Except Error String :=
  match value with
  | some text => if Text.blank text then .error (.invalidArgument name) else .ok text
  | none => .error (.invalidArgument name)

def requireId (element : Element) (name : String) : Except Error String :=
  requireText element.id name

def requireSome {α : Type} (items : List α) (name : String) : Except Error Unit :=
  if items.isEmpty then .error (.invalidArgument name) else .ok ()

def requireFound {α : Type} (found : Option α) (kind id : String) : Except Error α :=
  match found with
  | some a => .ok a
  | none => .error (.notFound kind id)

def groupIds (groups : List NetworkElement) : Except Error (List String) :=
  groups.mapM fun g ↦ requireText g.elementId "Port Pair Group Id"

theorem requireText_eq_ok_iff {value : Option String} {name text : String} :
    requireText value name = .ok text ↔ value = some text ∧ Text.blank text = false := by
  cases value with
  | none => simp [requireText]
  | some t =>
    simp only [requireText, Option.some.injEq]
    split
    · rename_i h
      constructor
      · simp
      · rintro ⟨rfl, h'⟩
        simp [h] at h'
    · rename_i h
      constructor
      · intro e
        cases e
        exact ⟨rfl, by simpa using h⟩
      · rintro ⟨rfl, _⟩
        rfl

end TrafficSteering.Guard
