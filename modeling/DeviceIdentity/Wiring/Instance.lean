/-!
# Instances

What is wired together: values with an identity. Two instances are the same only if they were issued
as one, however equal their values are. `Resolved` is a set of instances with their types, in the
order in which the types are declared.

The number of an instance stands for the address of its allocation. Addresses can come back once an
allocation is freed, numbers never do. The two tell apart the same instances as long as those that
are compared are both alive, and so they are: one is held by the container, and the other is a
dependency of a use case that is kept, which holds on to its dependencies (`Built`).
-/
namespace DeviceIdentity.Wiring

/-- A value and the number under which it was issued. -/
structure Instance (α : Type) where
  number : Nat
  value : α
deriving DecidableEq, Repr

variable {κ : Type} {β : κ → Type}

/-- Instances of the types that the keys stand for, one for each key. -/
inductive Resolved (β : κ → Type) : List κ → Type where
  | nil : Resolved β []
  | cons {key : κ} {keys : List κ} (first : Instance (β key)) (rest : Resolved β keys) :
      Resolved β (key :: keys)

namespace Resolved

/-- The numbers of the instances. -/
def numbers : {keys : List κ} → Resolved β keys → List Nat
  | _, nil => []
  | _, cons first rest => first.number :: rest.numbers

/-- The instances with their keys. -/
def toList : {keys : List κ} → Resolved β keys → List (Σ key, Instance (β key))
  | _, nil => []
  | _, cons first rest => ⟨_, first⟩ :: rest.toList

@[simp] theorem numbers_nil : (nil : Resolved β []).numbers = [] := rfl

@[simp] theorem numbers_cons {key : κ} {keys : List κ} (first : Instance (β key))
    (rest : Resolved β keys) : (cons first rest).numbers = first.number :: rest.numbers := rfl

@[simp] theorem toList_nil : (nil : Resolved β []).toList = [] := rfl

@[simp] theorem toList_cons {key : κ} {keys : List κ} (first : Instance (β key))
    (rest : Resolved β keys) : (cons first rest).toList = ⟨key, first⟩ :: rest.toList := rfl

theorem length_toList {keys : List κ} (r : Resolved β keys) : r.toList.length = keys.length := by
  induction r with
  | nil => rfl
  | cons first rest ih => simp [ih]

end Resolved

/-- Why wiring fails. -/
inductive Fault (κ : Type) where
  /-- Nothing has been provided for the key. -/
  | missing (key : κ)
  /-- What has been provided for the key is of another type. -/
  | mismatch (key : κ)
deriving DecidableEq, Repr

namespace Fault

/-- The key that cannot be resolved. -/
def key : Fault κ → κ
  | missing key => key
  | mismatch key => key

/-- The text of a fault, with the names of the keys. -/
def message (name : κ → String) : Fault κ → String
  | missing key => "No instance has been provided for " ++ name key
  | mismatch key => "Registered instance does not match requested type " ++ name key

/-- The fault with another kind of key. -/
def map {γ : Type} (f : κ → γ) : Fault κ → Fault γ
  | missing key => missing (f key)
  | mismatch key => mismatch (f key)

end Fault

end DeviceIdentity.Wiring
