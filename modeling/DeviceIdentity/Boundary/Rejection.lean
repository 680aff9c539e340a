import DeviceIdentity.Boundary.Problem

/-!
# Rejections

What a component is told when its request is not served. The message is safe to be told: a failure
inside the service has one fixed message, whatever its cause.
-/
namespace DeviceIdentity

/-- A refused request. -/
inductive Rejection where
  | unauthorized (message : String)
  | invalidArguments (message : String)
  | serviceError (message : String)
deriving DecidableEq, Repr

/-- Why the identity of a device was not verified. -/
inductive VerificationFault where
  | unauthorized (reason : String)
  | invalidArgument (reason : String)
  | serviceError
deriving DecidableEq, Repr

/-- What a caller is told of every failure inside the service. -/
def serviceErrorMessage : String :=
  "Verifying client device identity failed. Check the service log for details."

/-- What a caller without a known identity is told. -/
def notAuthorizedMessage : String := "Not Authorized"

/-- The text of a fault. -/
def VerificationFault.message : VerificationFault → String
  | unauthorized reason => reason
  | invalidArgument reason => reason
  | serviceError => serviceErrorMessage

namespace Rejection

/-- The message of a rejection. -/
def message : Rejection → String
  | unauthorized message => message
  | invalidArguments message => message
  | serviceError message => message

/-- The kind of problem that a rejection is. -/
def kind : Rejection → ProblemKind
  | unauthorized _ => .unauthorized
  | invalidArguments _ => .badRequest
  | serviceError _ => .internal

/-- The problem that a rejection is. -/
def problem (r : Rejection) : Problem := .ofMessage r.kind r.message

/-- The response to a rejected request. -/
def response (r : Rejection) : Response := r.problem.response

/-- The rejection that tells why an identity was not verified. -/
def ofVerification : VerificationFault → Rejection
  | .unauthorized reason => unauthorized reason
  | .invalidArgument reason => invalidArguments reason
  | .serviceError => serviceError serviceErrorMessage

/-- The rejection of a request that the service is not wired for. -/
def ofWiring (_ : Wiring.Fault String) : Rejection := serviceError serviceErrorMessage

end Rejection

end DeviceIdentity
