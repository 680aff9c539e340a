import DeviceIdentity.Net.Header

/-!
# Requests

A request as it comes in: its method, its target, its headers in their order, its body, and the
address of the connection if it is known.
-/
namespace DeviceIdentity.Net

/-- A request. -/
structure Request where
  method : String
  target : String
  headers : List Header
  body : List UInt8
  peer : Option Address
deriving DecidableEq, Repr

/-- The rest of a text after the first place where another stands in it. -/
def after? (part : List Char) : List Char → Option (List Char)
  | [] => none
  | c :: cs =>
    if part.isPrefixOf (c :: cs) then some ((c :: cs).drop part.length) else after? part cs

/-- The path in the target of a request: what stands before a query, without scheme and host. -/
def Request.path (r : Request) : String :=
  let target := r.target.toList.takeWhile fun c => c ≠ '?' && c ≠ '#'
  match target with
  | '/' :: _ => String.ofList target
  | _ =>
    match after? "://".toList target with
    | none => String.ofList target
    | some rest =>
      match rest.dropWhile (· ≠ '/') with
      | [] => "/"
      | path => String.ofList path

end DeviceIdentity.Net
