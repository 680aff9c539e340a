import DeviceIdentity.Json.Typed
import DeviceIdentity.Pem.Certificate

/-!
# Certificates

The certificate that a client device presents, as text. It is known by the digest of what it holds,
so two texts of one certificate have one id. It is never shown in full.
-/
namespace DeviceIdentity

/-- A certificate as it was presented: any text but the empty one. -/
structure Certificate where
  text : String
  text_ne_empty : text ≠ ""
deriving DecidableEq, Repr

/-- The id of a certificate: the digest of its bytes, in lowercase hexadecimal digits. -/
structure CertificateId where
  digits : String
deriving DecidableEq, Repr

/-- Whether a registered certificate counts. -/
inductive Status where
  | active
  | inactive
deriving DecidableEq, Repr

namespace Certificate

/-- The certificate with that text; none if the text is empty. -/
def ofText (text : String) : Option Certificate :=
  if h : text = "" then none else some ⟨text, h⟩

/-- The id of a certificate, if its text can be decoded. -/
def id (c : Certificate) : Except Pem.CertificateFault CertificateId :=
  (Pem.fingerprint c.text).map .mk

/-- What is shown of a certificate: its size. -/
def shown (c : Certificate) : String :=
  "ClientDeviceCertificate(" ++ toString (Text.utf8 c.text).length ++ " bytes)"

@[simp] theorem ofText_empty : ofText "" = none := rfl

theorem ofText_of_ne {text : String} (h : text ≠ "") : ofText text = some ⟨text, h⟩ := by
  simp [ofText, h]

end Certificate

namespace CertificateId

/-- The JSON value of an id: its digits. -/
def toJson (id : CertificateId) : Json := .string id.digits

/-- The id of a JSON text, or the message why there is none. Any string is taken. -/
def ofJsonText (text : String) : Except String CertificateId :=
  (Json.decode Json.text text).map .mk

end CertificateId

namespace Status

/-- The name of a status. -/
def name : Status → String
  | active => "ACTIVE"
  | inactive => "INACTIVE"

/-- The statuses by their names. -/
def named : List (String × Status) := [("ACTIVE", active), ("INACTIVE", inactive)]

/-- The status of that name. -/
def ofName? : String → Option Status
  | "ACTIVE" => some active
  | "INACTIVE" => some inactive
  | _ => none

/-- The JSON value of a status: its name. -/
def toJson (s : Status) : Json := .string s.name

/-- The status of a JSON text, or the message why there is none. -/
def ofJsonText (text : String) : Except String Status :=
  Json.decode (Json.oneOf named) text

/-- What is written for a status is read as this status. -/
@[simp] theorem ofName?_name (s : Status) : ofName? s.name = some s := by
  cases s <;> rfl

end Status

end DeviceIdentity
