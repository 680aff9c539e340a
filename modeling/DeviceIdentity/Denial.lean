import DeviceIdentity.Permission

/-!
# Denials

Why a permission is not granted: no policy grants it. A denial repeats what was asked for.
-/
namespace DeviceIdentity

/-- A permission that was not granted in a namespace. -/
structure Denial where
  principal : String
  scope : String
  operation : String
  resource : String
deriving DecidableEq, Repr

namespace Denial

/-- The denial of a permission. -/
def ofPermission (scope : String) (p : Permission) : Denial :=
  ⟨p.principal, scope, p.operation, p.resource⟩

/-- The text of a denial. -/
def message (d : Denial) : String :=
  "Principal " ++ d.principal ++ " is not authorized to perform " ++ d.scope ++ ":" ++
    d.operation ++ " on resource " ++ d.resource

end Denial

end DeviceIdentity
