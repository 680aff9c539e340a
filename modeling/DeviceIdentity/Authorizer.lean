import DeviceIdentity.Denial
import DeviceIdentity.Event
import DeviceIdentity.Policy

/-!
# Authorizers

A table of policies, grouped by namespace, that decides which permissions are granted. A permission
is granted if one policy of its namespace grants it; otherwise it is denied with a reason.
-/
namespace DeviceIdentity

/-- The policies of each namespace, in the order in which they were added. -/
structure Authorizer where
  byScope : Named (List Policy)
deriving DecidableEq, Repr

namespace Authorizer

/-- A table without policies. -/
def empty : Authorizer := ⟨[]⟩

/-- The policies of a namespace. -/
def inScope (a : Authorizer) (scope : String) : List Policy := (a.byScope.get? scope).getD []

/-- The table with one more policy. -/
def add (a : Authorizer) (p : Policy) : Authorizer :=
  ⟨a.byScope.set p.scope (a.inScope p.scope ++ [p])⟩

/-- The table of these policies. -/
def ofPolicies (policies : List Policy) : Authorizer := policies.foldl add empty

/-- The number of policies in all namespaces. -/
def size (a : Authorizer) : Nat := (a.byScope.flatMap fun (_, ps) => ps).length

/-- The first policy that grants the permission in a namespace. -/
def granting? (a : Authorizer) (scope : String) (permission : Permission) : Option Policy :=
  (a.inScope scope).find? (·.grants permission)

/-- The decision on a permission. It is never refused without a reason. -/
def decide (a : Authorizer) (scope : String) (permission : Permission) :
    Logged (Except Denial Bool) :=
  match a.granting? scope permission with
  | some p => do
    .note (.granted p.id permission.principal permission.operation)
    return .ok true
  | none => return .error (.ofPermission scope permission)

theorem inScope_add_self (a : Authorizer) (p : Policy) :
    (a.add p).inScope p.scope = a.inScope p.scope ++ [p] := by
  simp [add, inScope]

theorem inScope_add_of_ne (a : Authorizer) {p : Policy} {scope : String} (h : scope ≠ p.scope) :
    (a.add p).inScope scope = a.inScope scope := by
  simp [add, inScope, Named.get?_set_of_ne h]

end Authorizer

end DeviceIdentity
