import DeviceIdentity.Attribute
import DeviceIdentity.Permission

/-!
# Policies

A policy grants a principal some operations on some resources within a namespace. The principal, the
operations and the resources are expressions, in which `*` stands for any characters.
-/
namespace DeviceIdentity

/-- A single grant. -/
structure Policy where
  id : String
  principal : String
  scope : String
  operations : List String
  resources : List String
deriving DecidableEq, Repr

namespace Policy

/-- Whether one of the expressions accepts the value. -/
def someAccepts (expressions : List String) (value : String) : Bool :=
  expressions.any fun expression => (Attribute.literal value).satisfies expression

/-- Whether the policy grants the permission, wherever it applies. -/
def grants (p : Policy) (permission : Permission) : Bool :=
  someAccepts [p.principal] permission.principal &&
    someAccepts p.operations permission.operation &&
    someAccepts p.resources permission.resource

/-- The JSON value of a policy: an object with its parts. -/
def toJson (p : Policy) : Json :=
  .ofMembers [("policyId", .string p.id), ("principal", .string p.principal),
    ("namespace", .string p.scope), ("operations", .ofStrings p.operations),
    ("resources", .ofStrings p.resources)]

/-- The parts of a policy. -/
inductive Part where
  | id
  | principal
  | scope
  | operations
  | resources
deriving DecidableEq, Repr

/-- What a part holds: a text, or several. -/
def Part.Content : Part → Type
  | .id | .principal | .scope => String
  | .operations | .resources => List String

/-- How a policy is read. -/
def record : Json.Record Part Part.Content where
  expected := "struct AuthorizationPolicy"
  fields := [.id, .principal, .scope, .operations, .resources]
  name
    | .id => "policyId"
    | .principal => "principal"
    | .scope => "namespace"
    | .operations => "operations"
    | .resources => "resources"
  read
    | .id | .principal | .scope => Json.text
    | .operations | .resources => Json.list Json.text
  absent _ := none
  all_fields f := by cases f <;> simp

/-- A policy, from the front of a text. -/
def reader : Json.Reader Policy := fun rest => do
  let (parts, rest) ← record.reader rest
  return (⟨parts .id, parts .principal, parts .scope, parts .operations, parts .resources⟩, rest)

/-- The policy of a JSON text, or the message why there is none. -/
def ofJsonText (text : String) : Except String Policy :=
  Json.decode reader text

end Policy

end DeviceIdentity
