import DeviceIdentity.Digest.Sha256
import DeviceIdentity.Pem.Section

/-!
# Certificate sections

A certificate is a sequence of bytes in the first section labelled `CERTIFICATE`. The bytes are not
looked into. Its fingerprint is their digest, so it does not depend on how the text is laid out.
-/
namespace DeviceIdentity.Pem

/-- Why a text holds no certificate. -/
inductive CertificateFault where
  | noSection
  | emptySection
  | malformed (fault : SectionFault)
deriving DecidableEq, Repr

/-- The text of a fault. -/
def CertificateFault.message : CertificateFault → String
  | noSection => "No CERTIFICATE section found"
  | emptySection => "CERTIFICATE section is empty"
  | malformed fault => "Malformed CERTIFICATE section: " ++ fault.message

/-- The bytes of the certificate in a text. -/
def readCertificate (text : String) : Except CertificateFault (List UInt8) :=
  match firstSection certificateLabel .none (lines text.toList) with
  | .error fault => .error (.malformed fault)
  | .ok none => .error .noSection
  | .ok (some []) => .error .emptySection
  | .ok (some contents) => .ok contents

/-- The digest of the certificate in a text. -/
def fingerprint (text : String) : Except CertificateFault String :=
  (readCertificate text).map Digest.hexDigest

/-- How many characters a line of base64 text has. -/
def lineWidth : Nat := 64

/-- A text in lines of full width, the last one shorter. -/
def wrapped (cs : List Char) : List Char :=
  if cs = [] then []
  else cs.take lineWidth ++ '\n' :: wrapped (cs.drop lineWidth)
termination_by cs.length
decreasing_by
  have : cs.length ≠ 0 := by simpa using ‹¬cs = []›
  simp only [List.length_drop, lineWidth]
  omega

/-- The section with these bytes. -/
def writeCertificate (contents : List UInt8) : String :=
  String.ofList ("-----BEGIN CERTIFICATE-----\n".toList ++ wrapped (Base64.encode contents) ++
    "-----END CERTIFICATE-----\n".toList)

end DeviceIdentity.Pem
