import DeviceIdentity.Journal
import DeviceIdentity.Wiring.Container

/-!
# Registries

Use cases are built from the instances that a container holds, and kept until one of these instances
is replaced. Whether that has happened is found out only when the use case is asked for again: what
was handed out before stays as it is.

Like the instances of a container, all use cases are kept in one table, whatever their types are,
and one that is taken out of it must be of the type that is asked for.
-/
namespace DeviceIdentity.Wiring

variable {κ υ : Type} {β : κ → Type} {needs : υ → List κ}

/-- A use case that was built: its number, and the instances that it was built from. It has a hold
of these as long as it is kept, so none of them is freed meanwhile. -/
structure Built (β : κ → Type) (keys : List κ) where
  number : Nat
  dependencies : Resolved β keys

/-- Why a use case cannot be had. -/
inductive Failure (κ υ : Type) where
  /-- One of its dependencies cannot be resolved. -/
  | dependency (fault : Fault κ)
  /-- What is kept for the use case is of another type. -/
  | mismatch (useCase : υ)
deriving DecidableEq, Repr

/-- What wiring leaves in the log. -/
inductive Event (κ υ : Type) where
  | provided (key : κ) (replaced : Bool)
  | building (useCase : υ) (dependencies : Nat)
deriving DecidableEq, Repr

/-- How an event is written, with the names of keys and use cases. -/
def Event.record (keyName : κ → String) (useCaseName : υ → String) : Event κ υ → Record
  | provided key replaced =>
    ⟨.debug, ["Dependency provided"],
      [("dependency", .string (keyName key)), ("replaced", .bool replaced)]⟩
  | building useCase dependencies =>
    ⟨.debug, ["Building use case"],
      [("use_case", .string (useCaseName useCase)), ("dependencies", .ofInt dependencies)]⟩

/-- A container, the use cases that are kept, with their types, and the number of those built.
`needs` declares the dependencies of each use case. -/
structure Registry (κ υ : Type) (β : κ → Type) (needs : υ → List κ) where
  container : Container κ β
  cache : Table υ (Dynamic fun useCase => Built β (needs useCase))
  built : Nat

namespace Registry

/-- Nothing has been provided and nothing built. -/
def empty : Registry κ υ β needs := ⟨.empty, [], 0⟩

variable [DecidableEq υ]

/-- The use case that is kept, if it is, and is of the type that is asked for. -/
def kept? (r : Registry κ υ β needs) (useCase : υ) : Option (Built β (needs useCase)) :=
  (r.cache.get? useCase).bind (Dynamic.downcast? useCase)

variable [DecidableEq κ]

/-- Provides an instance. -/
def provide {key : κ} (r : Registry κ υ β needs) (i : Instance (β key)) :
    Noted (Event κ υ) (Registry κ υ β needs) :=
  ⟨{ r with container := r.container.provide i }, [.provided key (r.container.contains key)]⟩

/-- Provides several instances as one set, in their order. -/
def provideSet (r : Registry κ υ β needs) :
    List (Σ key, Instance (β key)) → Noted (Event κ υ) (Registry κ υ β needs)
  | [] => pure r
  | e :: rest => do
    let r ← r.provide e.2
    r.provideSet rest

/-- Issues an instance of a value and provides it. -/
def provideNew (key : κ) (r : Registry κ υ β needs) (value : β key) :
    Noted (Event κ υ) (Instance (β key) × Registry κ υ β needs) := do
  let (i, container) := r.container.issue value
  let r ← Registry.provide { r with container } i
  return (i, r)

/-- Issues instances of several values and provides them as one set. -/
def provideNewSet (r : Registry κ υ β needs) (values : List (Σ key, β key)) :
    Noted (Event κ υ) (Registry κ υ β needs) :=
  let (set, container) := r.container.issueSet values
  Registry.provideSet { r with container } set

/-- Builds a use case from its dependencies, and keeps it. -/
def build (r : Registry κ υ β needs) (useCase : υ) (dependencies : Resolved β (needs useCase)) :
    Noted (Event κ υ)
      (Except (Failure κ υ) (Built β (needs useCase)) × Registry κ υ β needs) :=
  let b : Built β (needs useCase) := ⟨r.built, dependencies⟩
  ⟨(.ok b, { r with cache := r.cache.set useCase ⟨useCase, b⟩, built := r.built + 1 }),
    [.building useCase dependencies.numbers.length]⟩

/-- The use case that is kept if it was built from the instances that the container holds, otherwise
a new one, which is then kept. Where a dependency cannot be resolved, nothing changes. -/
def get (r : Registry κ υ β needs) (useCase : υ) :
    Noted (Event κ υ)
      (Except (Failure κ υ) (Built β (needs useCase)) × Registry κ υ β needs) :=
  match r.container.resolveSet (needs useCase) with
  | .error fault => pure (.error (.dependency fault), r)
  | .ok dependencies =>
    match r.cache.get? useCase with
    | none => r.build useCase dependencies
    | some kept =>
      -- Numbers are compared, not values: an equal value under another number is another instance.
      if kept.2.dependencies.numbers = dependencies.numbers then
        match kept.downcast? useCase with
        | some b => pure (.ok b, r)
        | none => pure (.error (.mismatch useCase), r)
      else r.build useCase dependencies

/-- Keeps no use case any longer. -/
def clear (r : Registry κ υ β needs) : Registry κ υ β needs := { r with cache := [] }

/-- How many use cases are kept. -/
def cached (r : Registry κ υ β needs) : Nat := r.cache.length

end Registry

end DeviceIdentity.Wiring
