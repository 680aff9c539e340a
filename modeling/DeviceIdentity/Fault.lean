import DeviceIdentity.Configuration.Fault
import DeviceIdentity.Files
import DeviceIdentity.Pem.Certificate

/-!
# Faults

What can fail inside the service. None of this is told to a caller; it is logged.
-/
namespace DeviceIdentity

/-- Why a database cannot be asked. -/
inductive DatabaseFault where
  | poolClosed
  | poolTimedOut
  /-- Any other failure, in the words of the database. -/
  | other (text : String)
deriving DecidableEq, Repr

/-- The text of a fault. -/
def DatabaseFault.message : DatabaseFault → String
  | poolClosed => "attempted to acquire a connection on a closed pool"
  | poolTimedOut => "pool timed out while waiting for an open connection"
  | other text => text

/-- A failure inside the service. -/
inductive Fault where
  | configuration (fault : ConfigurationFault)
  | certificate (fault : Pem.CertificateFault)
  | database (fault : DatabaseFault)
  | file (fault : FileFault)
deriving DecidableEq, Repr

/-- The text of a fault. -/
def Fault.message : Fault → String
  | configuration fault => "Invalid configuration: " ++ fault.message
  | certificate fault => "Invalid certificate: " ++ fault.message
  | database fault => "Database error: " ++ fault.message
  | file fault => "I/O error: " ++ fault.message

end DeviceIdentity
