import DeviceIdentity.Configuration.Fault
import DeviceIdentity.Json.Printer
import DeviceIdentity.Text.Pieces

/-!
# Certificate authority

The settings of the certificate authority, as the service finds them in its part of the
configuration. Without URIs the service runs an authority of its own.
-/
namespace DeviceIdentity

/-- The kind of key that the authority signs with. -/
inductive KeyType where
  | rsa2048
  | ecdsaP256
deriving DecidableEq, Repr

namespace KeyType

/-- The name of a kind of key. -/
def name : KeyType → String
  | rsa2048 => "RSA_2048"
  | ecdsaP256 => "ECDSA_P256"

/-- The kind of key that is used where none is named. -/
def standard : KeyType := rsa2048

/-- The kind of key of that name. -/
def ofName? : String → Option KeyType
  | "RSA_2048" => some rsa2048
  | "ECDSA_P256" => some ecdsaP256
  | _ => none

/-- What is written for a kind of key is read as this kind. -/
@[simp] theorem ofName?_name (k : KeyType) : ofName? k.name = some k := by
  cases k <;> rfl

end KeyType

/-- The settings of the certificate authority. -/
structure Authority where
  certificateUri : Option String
  privateKeyUri : Option String
  keyType : KeyType
deriving DecidableEq, Repr

namespace Authority

/-- Whether an authority other than the service's own is configured. -/
def isExternal (a : Authority) : Bool := a.certificateUri.isSome

/-- The settings as a JSON value. -/
def toJson (a : Authority) : Json :=
  .ofMembers [("certificateUri", .ofOption a.certificateUri),
    ("privateKeyUri", .ofOption a.privateKeyUri), ("caType", .string a.keyType.name)]

/-! ## URIs -/

/-- A letter that a scheme may start with. -/
def isSchemeStart (c : Char) : Bool := c.isAlpha

/-- A character that may follow in a scheme. -/
def isSchemeChar (c : Char) : Bool := c.isAlphanum || c = '+' || c = '-' || c = '.'

/-- Whether a text is the name of a scheme. -/
def isScheme : List Char → Bool
  | [] => false
  | c :: cs => isSchemeStart c && cs.all isSchemeChar

/-- Whether a text starts with a scheme and a colon, and goes on after it. -/
def isUri (uri : String) : Bool :=
  match Text.splitOnce ':' uri.toList with
  | some (scheme, rest) => isScheme scheme && !rest.isEmpty
  | none => false

/-! ## Reading the configuration -/

/-- Where the settings are, from the node of the service. -/
def path : List String := ["configuration", "certificateAuthority"]

/-- The setting of that name, wherever it is given. -/
def setting? (service : Option Json) (key : String) : Option Json :=
  service.bind (Json.node? (path ++ [key]))

/-- The text of a setting. The empty text and other values count as absent. -/
def textSetting? (service : Option Json) (key : String) : Option String :=
  match setting? service key with
  | some (.string s) => if s = "" then none else some s
  | _ => none

/-- A setting that must be a URI if it is there. -/
def uriSetting (service : Option Json) (key : String) :
    Except ConfigurationFault (Option String) :=
  match textSetting? service key with
  | none => .ok none
  | some uri => if isUri uri then .ok (some uri) else .error (.invalidUri key uri)

/-- The kind of key of that name, or a fault. -/
def keyTypeNamed (name : String) : Except ConfigurationFault KeyType :=
  match KeyType.ofName? name with
  | some k => .ok k
  | none => .error (.unsupportedKeyType name)

/-- The kind of key that a setting stands for: its name, or a list of which the first entry
counts. -/
def keyTypeOf : Option Json → Except ConfigurationFault KeyType
  | none | some .null | some (.array []) => .ok .standard
  | some (.string name) | some (.array (.string name :: _)) => keyTypeNamed name
  | some (.array (v :: _)) | some v => .error (.keyTypeNotText v.compact)

/-- The settings, from the node of the service. -/
def ofService (service : Option Json) : Except ConfigurationFault Authority := do
  let certificateUri ← uriSetting service "certificateUri"
  let privateKeyUri ← uriSetting service "privateKeyUri"
  if certificateUri.isSome ≠ privateKeyUri.isSome then .error .unpairedUris
  let keyType ← keyTypeOf (setting? service "caType")
  return ⟨certificateUri, privateKeyUri, keyType⟩

end Authority

end DeviceIdentity
