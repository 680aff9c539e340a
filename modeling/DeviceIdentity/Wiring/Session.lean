import DeviceIdentity.Named
import DeviceIdentity.Wiring.Registry

/-!
# Wiring sessions

Runs of operations on one registry. Instances can be kept under the name of a slot, so that the same
instance can be provided again.
-/
namespace DeviceIdentity.Wiring

variable {κ υ : Type} {β : κ → Type} {needs : υ → List κ} [DecidableEq κ] [DecidableEq υ]

/-- A registry and the instances that are kept by name. -/
structure Session (κ υ : Type) (β : κ → Type) (needs : υ → List κ) where
  registry : Registry κ υ β needs
  slots : Named (Σ key, Instance (β key))

/-- What can be done to a registry. -/
inductive Operation (β : κ → Type) (υ : Type) where
  /-- Provides a new instance, which may be kept in a slot. -/
  | provide (key : κ) (value : β key) (slot : Option String)
  /-- Provides the instance in a slot. -/
  | provideSlot (slot : String)
  /-- Provides new instances as one set. -/
  | provideSet (values : List (Σ key, β key))
  /-- Makes a new instance that is kept in a slot and not provided yet. -/
  | make (key : κ) (value : β key) (slot : String)
  /-- Provides the instances in several slots as one set. -/
  | provideSlots (slots : List String)
  | get (useCase : υ)
  | clear

/-- What an operation answers. -/
inductive Outcome (β : κ → Type) (needs : υ → List κ) where
  | provided (instance? : Option (Σ key, Instance (β key)))
  | providedSet
  | made (entry : Σ key, Instance (β key))
  | got (useCase : υ) (result : Except (Fault κ) (Built β (needs useCase)))
  /-- What is kept for the use case that was asked for is of another type. -/
  | mismatched (useCase : υ)
  | cleared

/-- What a get answers. -/
def Outcome.ofGet (useCase : υ) :
    Except (Failure κ υ) (Built β (needs useCase)) → Outcome β needs
  | .ok b => .got useCase (.ok b)
  | .error (.dependency fault) => .got useCase (.error fault)
  | .error (.mismatch other) => .mismatched other

namespace Session

/-- A session in which nothing has been done. -/
def start : Session κ υ β needs := ⟨.empty, []⟩

/-- One operation. -/
def perform (s : Session κ υ β needs) :
    Operation β υ → Noted (Event κ υ) (Outcome β needs × Session κ υ β needs)
  | .provide key value slot => do
    let (i, registry) ← s.registry.provideNew key value
    let slots := match slot with
      | some name => s.slots.set name ⟨key, i⟩
      | none => s.slots
    return (.provided (some ⟨key, i⟩), ⟨registry, slots⟩)
  | .provideSlot slot =>
    match s.slots.get? slot with
    | none => pure (.provided none, s)
    | some e => do
      let registry ← s.registry.provide e.2
      return (.provided (some e), { s with registry })
  | .provideSet values => do
    let registry ← s.registry.provideNewSet values
    return (.providedSet, { s with registry })
  | .make key value slot =>
    let (i, container) := s.registry.container.issue value
    pure (.made ⟨key, i⟩, ⟨{ s.registry with container }, s.slots.set slot ⟨key, i⟩⟩)
  | .provideSlots slots => do
    let registry ← s.registry.provideSet (slots.filterMap s.slots.get?)
    return (.providedSet, { s with registry })
  | .get useCase => do
    let (result, registry) ← s.registry.get useCase
    return (.ofGet useCase result, { s with registry })
  | .clear => pure (.cleared, { s with registry := s.registry.clear })

/-- Several operations, one after the other. -/
def run (s : Session κ υ β needs) :
    List (Operation β υ) → Noted (Event κ υ) (List (Outcome β needs) × Session κ υ β needs)
  | [] => pure ([], s)
  | op :: ops => do
    let (outcome, s) ← s.perform op
    let (outcomes, s) ← s.run ops
    return (outcome :: outcomes, s)

end Session

end DeviceIdentity.Wiring
