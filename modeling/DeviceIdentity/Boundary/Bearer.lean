import DeviceIdentity.Net.Header

/-!
# Bearer tokens

The token that a request carries in its `Authorization` header: the word `bearer` in any case, a
space, and the token with blanks around it.
-/
namespace DeviceIdentity

/-- Why a request carries no token. -/
inductive TokenFault where
  | missingHeader
  | malformed
deriving DecidableEq, Repr

/-- The text of a fault. -/
def TokenFault.message : TokenFault → String
  | missingHeader => "Missing required header: Authorization"
  | malformed => "Malformed Authorization header"

namespace Bearer

/-- The token in the text of a header. -/
def ofText? (text : List Char) : Option (List Char) :=
  match Text.splitOnce ' ' text with
  | none => none
  | some (scheme, rest) =>
    let token := Text.trim rest
    if scheme.map Char.toLower = "bearer".toList ∧ token ≠ [] then some token else none

/-- The token that the headers of a request carry. -/
def token (headers : List Net.Header) : Except TokenFault String :=
  match Net.firstHeader? "Authorization" headers with
  | none => .error .missingHeader
  | some value =>
    match (Net.visibleText? value).bind ofText? with
    | some token => .ok (String.ofList token)
    | none => .error .malformed

end Bearer

end DeviceIdentity
