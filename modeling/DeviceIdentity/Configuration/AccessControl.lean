import DeviceIdentity.Configuration.Fault
import DeviceIdentity.Policy

/-!
# Access control

The policies that components declare in their configuration. A component declares them for itself
alone: it is the principal of all of them. They are collected in the order of components, namespaces
and policy ids, and so the first violation in that order is the one that is reported.
-/
namespace DeviceIdentity.AccessControl

/-- Where a component declares its policies, from its own node. -/
def path : List String := ["configuration", "accessControl"]

/-- The texts of a list. -/
def texts (fault : AccessControlFault) : List Json → Except AccessControlFault (List String)
  | [] => .ok []
  | .string s :: rest => do return s :: (← texts fault rest)
  | _ :: _ => .error fault

/-- A list of texts in a policy. -/
def textList (id : String) (policy : Json) (key : String) :
    Except AccessControlFault (List String) :=
  match policy.get? key with
  | some (.array items) => texts (.entryNotText id key) items
  | _ => .error (.listMissing id key)

/-- A policy of a component. -/
def policy (component scope id : String) (node : Json) : Except AccessControlFault Policy := do
  let operations ← textList id node "operations"
  let resources ← textList id node "resources"
  return ⟨id, component, scope, operations, resources⟩

/-- The policies of a component in a namespace. -/
def ofScope (component scope : String) : Json → Except AccessControlFault (List Policy)
  | .object policies => policies.mapM fun (id, node) => policy component scope id node
  | _ => .error (.scopeNotObject scope)

/-- The policies of a component. -/
def ofDeclaration (component : String) : Json → Except AccessControlFault (List Policy)
  | .object scopes => do
    return (← scopes.mapM fun (scope, node) => ofScope component scope node).flatten
  | _ => .error .notObject

/-- The policies that a component declares in its node, if it declares any. -/
def ofComponent (component : String) (node : Json) : Except ConfigurationFault (List Policy) :=
  match node.node? path with
  | none => .ok []
  | some declaration => (ofDeclaration component declaration).mapError (.accessControl component)

/-- The policies of all components, from the node that holds them. -/
def policies (services : Option Json) : Except ConfigurationFault (List Policy) := do
  let components := (services.map Json.members).getD []
  return (← components.mapM fun (component, node) => ofComponent component node).flatten

end DeviceIdentity.AccessControl
