import DeviceIdentity.Wiring.Instance
import DeviceIdentity.Wiring.Table

/-!
# Containers

The instance that was provided last for each key. Providing replaces and never takes away, and
instances are only ever issued by the container, under numbers that it has not used before.

All instances are in one table, whatever their types are. An instance is entered with its own type,
and resolving checks that this is the type that the key stands for. `Container.get?` is the typed
view of the table, in which an entry of another type does not occur.
-/
namespace DeviceIdentity.Wiring

variable {κ : Type} {β : κ → Type} [DecidableEq κ]

/-- Instances by key, with their types, and the number of instances issued. -/
structure Container (κ : Type) (β : κ → Type) where
  entries : Table κ (Dynamic fun type => Instance (β type))
  issued : Nat

namespace Container

/-- Nothing has been provided. -/
def empty : Container κ β := ⟨[], 0⟩

/-- A new instance of a value. -/
def issue {key : κ} (c : Container κ β) (value : β key) : Instance (β key) × Container κ β :=
  (⟨c.issued, value⟩, { c with issued := c.issued + 1 })

/-- The instance that is held for a key, if it is of the type that the key stands for. -/
def get? (c : Container κ β) (key : κ) : Option (Instance (β key)) :=
  (c.entries.get? key).bind (Dynamic.downcast? key)

/-- Holds an instance, in place of the one before. -/
def provide {key : κ} (c : Container κ β) (i : Instance (β key)) : Container κ β :=
  { c with entries := c.entries.set key ⟨key, i⟩ }

/-- Holds several instances, one after the other. -/
def provideSet (c : Container κ β) (set : List (Σ key, Instance (β key))) : Container κ β :=
  set.foldl (fun c e => c.provide e.2) c

/-- New instances of several values, in their order. -/
def issueSet (c : Container κ β) :
    List (Σ key, β key) → List (Σ key, Instance (β key)) × Container κ β
  | [] => ([], c)
  | ⟨key, value⟩ :: rest =>
    let (i, c) := c.issue value
    let (set, c) := c.issueSet rest
    (⟨key, i⟩ :: set, c)

/-- Whether something has been provided for a key. -/
def contains (c : Container κ β) (key : κ) : Bool :=
  (c.entries.get? key).isSome

/-- For how many keys something has been provided. -/
def size (c : Container κ β) : Nat := c.entries.length

/-- The types of what has been provided. -/
def types (c : Container κ β) : List κ := c.entries.map (·.2.1)

/-- The instance for a key, or why there is none. -/
def resolve (c : Container κ β) (key : κ) : Except (Fault κ) (Instance (β key)) :=
  match c.entries.get? key with
  | none => .error (.missing key)
  | some held =>
    match held.downcast? key with
    | some i => .ok i
    | none => .error (.mismatch key)

/-- The instances for several keys, or why there is none for the first key without one. -/
def resolveSet (c : Container κ β) : (keys : List κ) → Except (Fault κ) (Resolved β keys)
  | [] => .ok .nil
  | key :: keys => do
    let first ← c.resolve key
    let rest ← c.resolveSet keys
    return .cons first rest

/-- The container as text: the names of the types of what it holds, in their order. -/
def shown (c : Container κ β) (name order : κ → String) : String :=
  let types := c.types.mergeSort fun a b => decide (order a ≤ order b)
  "DependencyContainer \x7b instances: [" ++
    ", ".intercalate (types.map fun type => "\"" ++ name type ++ "\"") ++ "] \x7d"

@[simp] theorem get?_provide_self {key : κ} (c : Container κ β) (i : Instance (β key)) :
    (c.provide i).get? key = some i := by
  unfold get? provide
  rw [Table.get?_set_self, Option.bind_some, Dynamic.downcast?_mk]

theorem get?_provide_of_ne {key other : κ} (h : other ≠ key) (c : Container κ β)
    (i : Instance (β key)) : (c.provide i).get? other = c.get? other := by
  unfold get? provide
  rw [Table.get?_set_of_ne h]

end Container

end DeviceIdentity.Wiring
