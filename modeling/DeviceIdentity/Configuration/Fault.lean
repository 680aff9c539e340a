/-!
# Configuration faults

What can be wrong with a configuration: with the settings of the certificate authority, with the
policies of a component, or with the table of tokens.
-/
namespace DeviceIdentity

/-- What is wrong with the policies that a component declares. -/
inductive AccessControlFault where
  | notObject
  | scopeNotObject (scope : String)
  | listMissing (policy list : String)
  | entryNotText (policy list : String)
deriving DecidableEq, Repr

/-- The text of a fault, without the component. -/
def AccessControlFault.message : AccessControlFault → String
  | notObject => "must be an object"
  | scopeNotObject scope => "namespace " ++ scope ++ " must be an object"
  | listMissing policy list => "policy " ++ policy ++ " must list " ++ list
  | entryNotText policy list => "policy " ++ policy ++ " has a non-string entry in " ++ list

/-- What is wrong with a configuration. -/
inductive ConfigurationFault where
  | invalidUri (key uri : String)
  | unpairedUris
  | keyTypeNotText (found : String)
  | unsupportedKeyType (name : String)
  | accessControl (component : String) (fault : AccessControlFault)
  | tokenEntry (number : Nat)
  /-- Any other fault, in words. -/
  | other (text : String)
deriving DecidableEq, Repr

/-- The text of a fault. -/
def ConfigurationFault.message : ConfigurationFault → String
  | invalidUri key uri => key ++ " is not a valid URI: " ++ uri
  | unpairedUris => "certificateUri and privateKeyUri must be configured together"
  | keyTypeNotText found => "caType must be a string, got " ++ found
  | unsupportedKeyType name => "Unsupported caType: " ++ name
  | accessControl component fault =>
    component ++ ".configuration.accessControl: " ++ fault.message
  | tokenEntry number =>
    "component token entry " ++ toString number ++ " must be component=token"
  | other text => text

end DeviceIdentity
