import DeviceIdentity.Json.Record

/-!
# Permissions

What a policy grants and a caller asks for: an operation on a resource, by a principal.
-/
namespace DeviceIdentity

/-- A request to perform an operation on a resource. -/
structure Permission where
  principal : String
  operation : String
  resource : String
deriving DecidableEq, Repr

namespace Permission

/-- The permission as text. -/
def shown (p : Permission) : String :=
  "principal: " ++ p.principal ++ ", operation: " ++ p.operation ++ ", resource: " ++ p.resource

/-- The JSON value of a permission: an object with its three parts. -/
def toJson (p : Permission) : Json :=
  .ofMembers [("principal", .string p.principal), ("operation", .string p.operation),
    ("resource", .string p.resource)]

/-- The parts of a permission. -/
inductive Part where
  | principal
  | operation
  | resource
deriving DecidableEq, Repr

/-- How a permission is read. -/
def record : Json.Record Part (fun _ => String) where
  expected := "struct Permission"
  fields := [.principal, .operation, .resource]
  name
    | .principal => "principal"
    | .operation => "operation"
    | .resource => "resource"
  read _ := Json.text
  absent _ := none
  all_fields f := by cases f <;> simp

/-- A permission, from the front of a text. -/
def reader : Json.Reader Permission := fun rest => do
  let (parts, rest) ← record.reader rest
  return (⟨parts .principal, parts .operation, parts .resource⟩, rest)

/-- The permission of a JSON text, or the message why there is none. -/
def ofJsonText (text : String) : Except String Permission :=
  Json.decode reader text

end Permission

end DeviceIdentity
