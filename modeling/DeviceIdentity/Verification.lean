import DeviceIdentity.Configuration.Snapshot

/-!
# Verification

Whether a client device that presents a certificate is a registered one. The caller must be
authorized before its payload is looked at, and the payload must hold a certificate before the store
is asked. The verification is written for collaborators of any kind (`Collaborators`). The service
runs it with those that it has wired (`Verifier.run`); with collaborators that keep a record of what
they are asked, what was asked can be told from what was answered (`Verifier.verify`).
-/
namespace DeviceIdentity

/-- What callers need the permission for. -/
def verifyOperation : String := "aws.greengrass#VerifyClientDeviceIdentity"

/-- The resource that callers need the permission for. -/
def anyResource : String := "*"

/-- The permission that a caller needs. -/
def Verifier.permissionOf (caller : String) : Permission := ⟨caller, verifyOperation, anyResource⟩

/-- The credential part of a request. -/
inductive Payload where
  | missing
  /-- The request could not be decoded. -/
  | malformed (detail : String)
  | present (certificate : Option String)
deriving DecidableEq, Repr

namespace Payload

/-- The certificate in a payload. -/
def certificate : Payload → Except VerificationFault Certificate
  | missing => .error (.invalidArgument "Client device credential is required")
  | malformed detail => .error (.invalidArgument detail)
  | present text =>
    match text.bind Certificate.ofText with
    | some c => .ok c
    | none => .error (.invalidArgument "Client device certificate is required")

end Payload

/-- The collaborators of a verification: who decides on permissions, who knows certificates, and who
takes the events. What else they do when they are asked is told by `m`. -/
structure Collaborators (m : Type → Type) where
  authorize : (scope : String) → Permission → m (Except Denial Bool)
  lookup : Certificate → m (Except Fault (Option CertificateId))
  log : Event → m Unit

namespace Collaborators

variable {m : Type → Type} [Monad m]

/-- Refuses a caller, with a reason. -/
def refuse {α : Type} (c : Collaborators m) (caller reason : String) :
    m (Except VerificationFault α) := do
  c.log (.denied reason caller)
  return .error (.unauthorized reason)

/-- Asks whether the caller is authorized. -/
def authorizeCaller (c : Collaborators m) (caller : String) :
    m (Except VerificationFault Unit) := do
  match ← c.authorize authService (Verifier.permissionOf caller) with
  | .ok true => return .ok ()
  | .ok false => c.refuse caller notAuthorizedMessage
  | .error denial => c.refuse caller denial.message

/-- Asks whether a certificate is registered and active. -/
def lookupCertificate (c : Collaborators m) (caller : String) (certificate : Certificate) :
    m (Except VerificationFault Bool) := do
  match ← c.lookup certificate with
  | .ok id => do
    c.log (.verified caller id.isSome)
    return .ok id.isSome
  | .error fault => do
    -- Only the log learns how the store has failed.
    c.log (.verificationFailed fault caller)
    return .error .serviceError

/-- The verification that a caller asks for. It stops at the first failure. -/
def verify (c : Collaborators m) (caller : String) (payload : Payload) :
    m (Except VerificationFault Bool) := do
  match ← c.authorizeCaller caller with
  | .error fault => return .error fault
  | .ok () =>
    match payload.certificate with
    | .error fault => return .error fault
    | .ok certificate => c.lookupCertificate caller certificate

end Collaborators

/-- The collaborators of a verification that the service wires together. They do nothing but answer,
and leave events in the log. -/
structure Verifier where
  authorize : (scope : String) → Permission → Logged (Except Denial Bool)
  lookup : Certificate → Logged (Except Fault (Option CertificateId))

namespace Verifier

/-- The collaborators, with the log of the service. -/
def logging (v : Verifier) : Collaborators Logged := ⟨v.authorize, v.lookup, .note⟩

/-- The verification with the events that it logs. -/
def run (v : Verifier) (caller : String) (payload : Payload) :
    Logged (Except VerificationFault Bool) :=
  v.logging.verify caller payload

/-! ## Keeping a record of the questions -/

/-- What happens during a verification: a question, or an event of the log. -/
inductive Step where
  | authorize (scope : String) (permission : Permission)
  | lookup (c : Certificate)
  | event (e : Event)
deriving DecidableEq, Repr

/-- The event that a step is, if it is one. -/
def Step.event? : Step → Option Event
  | event e => some e
  | _ => none

/-- The same collaborators, each of which takes a note of every question that it is asked before it
answers. The verification itself knows nothing of these notes. -/
def recording (v : Verifier) : Collaborators (Noted Step) where
  authorize scope permission := do
    .note (.authorize scope permission)
    (v.authorize scope permission).mapNotes .event
  lookup c := do
    .note (.lookup c)
    (v.lookup c).mapNotes .event
  log e := .note (.event e)

/-- The verification with everything that happens on the way. -/
def verify (v : Verifier) (caller : String) (payload : Payload) :
    Noted Step (Except VerificationFault Bool) :=
  v.recording.verify caller payload

end Verifier

end DeviceIdentity
