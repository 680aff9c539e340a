import DeviceIdentity.Service.Run
import DeviceIdentity.Tree.Session
import DeviceIdentity.Wiring.Session
import DeviceIdentity.Proofs.Wiring.Caching
import DeviceIdentity.Proofs.Wiring.History
import DeviceIdentity.Proofs.Service.Applying
import DeviceIdentity.Proofs.Service.Reloading
import DeviceIdentity.Proofs.Boundary.Answering
import DeviceIdentity.Proofs.Service.Requests
import DeviceIdentity.Proofs.Service.Refusal
import DeviceIdentity.Proofs.Authorizer
import DeviceIdentity.Proofs.Service.Verdict
import DeviceIdentity.Proofs.Service.AllOrNothing
import DeviceIdentity.Proofs.Named
import DeviceIdentity.Proofs.Json.Nodes
import DeviceIdentity.Proofs.Tree.Update
import DeviceIdentity.Proofs.Tree.Watching
import DeviceIdentity.Proofs.Outcome
import DeviceIdentity.Proofs.Glob
import DeviceIdentity.Proofs.Store.History
import DeviceIdentity.Proofs.Pem.Base64
import DeviceIdentity.Proofs.Pem.Section
import DeviceIdentity.Proofs.Pem.RoundTrip
import DeviceIdentity.Proofs.Boundary.Tokens
import DeviceIdentity.Proofs.Boundary.Authentication
import DeviceIdentity.Proofs.Configuration.AccessControl
import DeviceIdentity.Proofs.Service.Isolation
import DeviceIdentity.Proofs.Wiring.Missing
import DeviceIdentity.Proofs.Service.Failures
import DeviceIdentity.Proofs.Service.Provisions
import DeviceIdentity.Proofs.Service.Trees
import DeviceIdentity.Proofs.Pem.Base64.Size
import DeviceIdentity.Proofs.Pem.Origin
import DeviceIdentity.Proofs.Seeding
import DeviceIdentity.Proofs.Configuration.Extraction
import DeviceIdentity.Proofs.Verification
import DeviceIdentity.Proofs.Configuration.Authority
import DeviceIdentity.Proofs.Boundary.Table
import DeviceIdentity.Proofs.Store.Registering
import DeviceIdentity.Proofs.Seeding.Memory
import DeviceIdentity.Proofs.Pem.Stability
import DeviceIdentity.Proofs.Glob.Bounds
import DeviceIdentity.Proofs.Pem.Quotation
import DeviceIdentity.Proofs.Disclosure
import DeviceIdentity.Proofs.Json.Strings
import DeviceIdentity.Proofs.Json.RoundTrip
import DeviceIdentity.Proofs.Serialization
