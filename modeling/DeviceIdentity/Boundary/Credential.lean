import DeviceIdentity.Json.Record
import DeviceIdentity.Net.MediaType
import DeviceIdentity.Net.Request
import DeviceIdentity.Verification

/-!
# Credentials in requests

The body of a request: an object with a credential, which holds the certificate of the device. Both
may be left out. A body that cannot be decoded is no failure of the request but a payload like any
other, with the reason in it.
-/
namespace DeviceIdentity.Boundary

/-- The only part of a credential. -/
inductive CredentialPart where
  | certificate
deriving DecidableEq

/-- How a credential is read: a certificate as text, or none. -/
def credentialRecord : Json.Record CredentialPart (fun _ => Option String) where
  expected := "struct ClientDeviceCredentialDto"
  fields := [.certificate]
  name _ := "clientDeviceCertificate"
  read _ := Json.optional Json.text
  absent _ := some none
  all_fields f := by cases f; simp

/-- The only part of the body of a request. -/
inductive RequestPart where
  | credential
deriving DecidableEq

/-- How the body of a request is read: a credential, or none. -/
def requestRecord : Json.Record RequestPart (fun _ => Option (Option String)) where
  expected := "struct VerifyClientDeviceIdentityRequest"
  fields := [.credential]
  name _ := "credential"
  read _ := Json.optional fun rest => do
    let (parts, rest) ← credentialRecord.reader rest
    return (parts .certificate, rest)
  absent _ := some none
  all_fields f := by cases f; simp

/-- The body of a request, from the front of a text. -/
def requestReader : Json.Reader Payload := fun rest => do
  let (parts, rest) ← requestRecord.reader rest
  match parts .credential with
  | some certificate => return (.present certificate, rest)
  | none => return (.missing, rest)

/-- How many bytes a body may have. -/
def bodyLimit : Nat := 2 * 1024 * 1024

/-- What is wrong with a body that is no JSON, or not of the kind that is read. -/
def bodyFault (text : List Text.Glyph) (f : Json.Failure) : String :=
  (if f.cause.isMismatch then "Failed to deserialize the JSON body into the target type: "
    else "Failed to parse the request body as JSON: ") ++ f.messageWithPath text

/-- The payload of a request. The content type is looked at first, then the size, then the text. -/
def payload (r : Net.Request) : Payload :=
  if ¬ Net.MediaType.announcesJson r.headers then
    .malformed "Expected request with `Content-Type: application/json`"
  else if bodyLimit < r.body.length then
    .malformed "Failed to buffer the request body: length limit exceeded"
  else
    let text := Text.Glyph.ofBytes r.body
    match Json.whole requestReader text with
    | .ok payload => payload
    | .error f => .malformed (bodyFault text f)

end DeviceIdentity.Boundary
