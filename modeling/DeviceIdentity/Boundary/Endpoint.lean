import DeviceIdentity.Boundary.Credential
import DeviceIdentity.Boundary.Tokens

/-!
# The endpoint

One route, for one method, behind the token of a component. A request is first admitted or
answered, by its path, its token and its method (`admission`); an admitted one is then completed
with whatever use case can be had (`complete`), which authorizes the caller before it looks at the
payload.
-/
namespace DeviceIdentity.Boundary

/-- The path of the route. -/
def route : String := "/verify-client-device-identity"

/-- What becomes of a request before any use case is involved. -/
inductive Admission where
  | answered (response : Response)
  | admitted (caller : String) (payload : Payload)

/-- Answers with a rejection, which is logged. -/
def reject (r : Rejection) : Logged Response := do
  .note (.rejected r)
  return r.response

/-- The component that a request comes from, by its token. -/
def caller? (tokens : Tokens) (r : Net.Request) : Logged (Option String) :=
  match Bearer.token r.headers with
  | .ok token => return tokens.identify token
  | .error fault => do
    .note (.noUsableToken fault)
    return none

/-- The component that a request comes from, or the rejection of an unknown one. -/
def authenticate (tokens : Tokens) (r : Net.Request) : Logged (Except Response String) := do
  match ← caller? tokens r with
  | some caller => return .ok caller
  | none => do
    .note (.unknownCaller (Net.clientAddress r.headers r.peer))
    let response ← reject (.unauthorized notAuthorizedMessage)
    return .error response

/-- Admits a request, or answers it: an unknown path, an unknown caller, a wrong method. -/
def admission (tokens : Tokens) (r : Net.Request) : Logged Admission := do
  if r.path ≠ route then return .answered (.bare 404)
  -- The token is looked at before the method, so a caller without one learns nothing else.
  match ← authenticate tokens r with
  | .error response =>
    return .answered (if r.method = "POST" then response else response.allowing "POST")
  | .ok caller =>
    if r.method = "POST" then return .admitted caller (payload r)
    else return .answered ((Response.bare 405).allowing "POST")

/-- The response to a verification. -/
def answer : Except VerificationFault Bool → Logged Response
  | .ok valid => return .json 200 (.ofMembers [("isValidClientDevice", .bool valid)])
  | .error fault => reject (.ofVerification fault)

/-- Completes an admitted request with the use case, or with the reason why there is none. -/
def complete (caller : String) (payload : Payload)
    (useCase : Except (Wiring.Fault String) Verifier) : Logged Response :=
  match useCase with
  | .error fault => do
    .note (.unavailable (.ofWiring fault))
    reject (.ofWiring fault)
  | .ok verifier => do
    let result ← verifier.run caller payload
    answer result

/-- The response as it is sent: without a body if only the head was asked for. -/
def sent (r : Net.Request) (response : Response) : Response :=
  if r.method = "HEAD" then response.headOnly else response

end DeviceIdentity.Boundary
