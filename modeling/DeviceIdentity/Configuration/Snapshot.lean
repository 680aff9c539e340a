import DeviceIdentity.Authorizer
import DeviceIdentity.Configuration.AccessControl

/-!
# Configuration snapshots

What the service takes from the configuration tree at one moment: the settings of the certificate
authority and the table of policies. Either both are derived or none.
-/
namespace DeviceIdentity

/-- The name of the service: its node in the configuration and its namespace in policies. -/
def authService : String := "aws.greengrass.clientdevices.Auth"

/-- What is derived from one configuration tree. -/
structure Snapshot where
  authority : Authority
  authorizer : Authorizer
deriving DecidableEq, Repr

namespace Snapshot

/-- The node that holds all services. -/
def services (root : Json) : Option Json := root.node? ["services"]

/-- The snapshot of a tree. A fault of the authority comes before one of the policies. -/
def ofTree (root : Json) : Except ConfigurationFault Snapshot := do
  let authority ← Authority.ofService ((services root).bind (Json.node? [authService]))
  let policies ← AccessControl.policies (services root)
  return ⟨authority, .ofPolicies policies⟩

/-- The event that a snapshot is applied. -/
def applying (s : Snapshot) : Event :=
  .applying s.authority.isExternal s.authority.keyType s.authorizer.size

end Snapshot

end DeviceIdentity
