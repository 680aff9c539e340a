import DeviceIdentity.Boundary.Bearer
import DeviceIdentity.Boundary.Rejection
import DeviceIdentity.Certificate
import DeviceIdentity.Configuration.Authority
import DeviceIdentity.Fault
import DeviceIdentity.Journal
import DeviceIdentity.Thing
import DeviceIdentity.Tree

/-!
# Events

Everything that the service writes to its log, as data. `Event.record` says how each event is
written; of a certificate no event holds more than its id or what is wrong with it.
-/
namespace DeviceIdentity

/-- An event of the log. -/
inductive Event where
  -- the tree and the configuration
  | treeChanged (handle : Handle) (version : Nat)
  | applying (custom : Bool) (keyType : KeyType) (policies : Nat)
  | reloaded (version : Nat)
  | reloadFailed (version : Nat) (fault : Fault)
  -- verification
  | granted (policy principal operation : String)
  | denied (reason component : String)
  | verified (component : String) (valid : Bool)
  | verificationFailed (fault : Fault) (component : String)
  -- certificates
  | registered (id : CertificateId)
  | undecodable (fault : Pem.CertificateFault)
  | skippedName (path : String) (fault : ThingFault)
  | skippedCertificate (path : String) (fault : Pem.CertificateFault)
  | skippedEmpty (path : String)
  | seeded (directory : String) (count : Nat)
  -- requests
  | noUsableToken (fault : TokenFault)
  | unknownCaller (address : Option Net.Address)
  | rejected (rejection : Rejection)
  | unavailable (problem : Problem)
deriving DecidableEq, Repr

/-- A result with events of the log. -/
abbrev Logged := Noted Event

namespace Event

/-- An address that may be missing. -/
def shownAddress : Option Net.Address → String
  | none => "None"
  | some address => "Some(" ++ address.text ++ ")"

/-- How an event is written. -/
def record : Event → Record
  | treeChanged handle version =>
    ⟨.debug, ["Configuration changed"],
      [("path", .string (Text.quotedList handle)), ("version", .ofInt version)]⟩
  | applying custom keyType policies =>
    ⟨.info, ["Applying client devices auth configuration"],
      [("custom_ca", .bool custom), ("ca_type", .string keyType.name),
        ("policies", .ofInt policies)]⟩
  | reloaded version => ⟨.info, ["Configuration reloaded"], [("version", .ofInt version)]⟩
  | reloadFailed version fault =>
    ⟨.error, ["Configuration reload failed, keeping previous configuration"],
      [("version", .ofInt version), ("error", .string fault.message)]⟩
  | granted policy principal operation =>
    ⟨.debug, ["Permission granted"],
      [("policy_id", .string policy), ("principal", .string principal),
        ("operation", .string operation)]⟩
  | denied reason component =>
    ⟨.warn, [notAuthorizedMessage],
      [("error", .string reason), ("component_name", .string component)]⟩
  | verified component valid =>
    ⟨.debug, ["Verified client device identity"],
      [("component_name", .string component), ("is_valid", .bool valid)]⟩
  | verificationFailed fault component =>
    ⟨.error, ["Unable to verify client device identity"],
      [("error", .string fault.message), ("component_name", .string component)]⟩
  | registered id =>
    ⟨.debug, ["Registered client device certificate"], [("certificate_id", .string id.digits)]⟩
  | undecodable fault =>
    ⟨.debug, ["Presented certificate is not decodable"], [("error", .string fault.message)]⟩
  | skippedName path fault =>
    ⟨.warn, ["Skipping certificate file"],
      [("path", .string path), ("error", .string fault.message)]⟩
  | skippedCertificate path fault =>
    ⟨.warn, ["Skipping certificate file"],
      [("path", .string path), ("error", .string fault.message)]⟩
  | skippedEmpty path => ⟨.warn, ["Skipping empty certificate file"], [("path", .string path)]⟩
  | seeded directory count =>
    ⟨.info, ["Loaded client device certificates"],
      [("dir", .string directory), ("certificates", .ofInt count)]⟩
  | noUsableToken fault =>
    ⟨.debug, ["IPC request without usable token"], [("error", .string fault.message)]⟩
  | unknownCaller address =>
    ⟨.warn, ["Rejected IPC request from unknown component"],
      [("client_ip", .string (shownAddress address))]⟩
  | rejected (.serviceError message) => ⟨.error, ["IPC request failed", message], []⟩
  | rejected (.unauthorized message) => ⟨.warn, ["IPC request rejected", message], []⟩
  | rejected (.invalidArguments message) => ⟨.debug, ["IPC request invalid", message], []⟩
  | unavailable problem =>
    ⟨.error, ["Use case is not available"], [("error", .string problem.shown)]⟩

end Event

end DeviceIdentity
