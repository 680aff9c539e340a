import DeviceIdentity.Json.Printer
import DeviceIdentity.Text.Quoted
import DeviceIdentity.Wiring.Instance

/-!
# Problems and responses

What the service answers over HTTP. A problem has a kind and a message, which the caller is told,
and perhaps a source, which is only logged.
-/
namespace DeviceIdentity

/-- The body of a response. -/
inductive Body where
  | empty
  | json (value : Json)
deriving Repr

/-- A response: its status, the headers that matter, and its body. -/
structure Response where
  status : Nat
  contentType : Option String
  allow : Option String
  body : Body
deriving Repr

namespace Response

/-- A response with a JSON body. -/
def json (status : Nat) (value : Json) : Response :=
  ⟨status, some "application/json", none, .json value⟩

/-- A response without a body. -/
def bare (status : Nat) : Response := ⟨status, none, none, .empty⟩

/-- The same response, saying which method is allowed. -/
def allowing (method : String) (r : Response) : Response := { r with allow := some method }

/-- The same response without its body. -/
def headOnly (r : Response) : Response := { r with body := .empty }

end Response

/-- The kinds of problems that a caller is told apart. -/
inductive ProblemKind where
  | badRequest
  | unauthorized
  | internal
deriving DecidableEq, Repr

namespace ProblemKind

/-- The status of a kind of problem. -/
def status : ProblemKind → Nat
  | badRequest => 400
  | unauthorized => 401
  | internal => 500

/-- The title of a kind of problem. -/
def title : ProblemKind → String
  | badRequest => "Bad Request"
  | unauthorized => "Unauthorized"
  | internal => "Internal Server Error"

/-- The name of a kind of problem in the log. -/
def name : ProblemKind → String
  | badRequest => "BadRequest"
  | unauthorized => "Unauthorized"
  | internal => "InternalServerError"

end ProblemKind

/-- What a problem comes from. -/
inductive ProblemSource where
  /-- Wiring failed; the keys are named. -/
  | wiring (fault : Wiring.Fault String)
  /-- Any other failure, in words. -/
  | other (text : String)
deriving DecidableEq, Repr

namespace ProblemSource

/-- The text of a source. -/
def text : ProblemSource → String
  | wiring fault => fault.message id
  | other text => text

/-- A source with its structure, for the log. -/
def shown : ProblemSource → String
  | wiring (.missing name) => "MissingDependency \x7b type_name: " ++ Text.quoted name ++ " \x7d"
  | wiring (.mismatch name) => "TypeMismatch \x7b type_name: " ++ Text.quoted name ++ " \x7d"
  | other text => "Custom \x7b kind: Other, error: " ++ Text.quoted text ++ " \x7d"

end ProblemSource

/-- A failure as it is told to a caller. -/
structure Problem where
  kind : ProblemKind
  message : String
  source : Option ProblemSource
deriving DecidableEq, Repr

namespace Problem

/-- A problem whose source is not known. -/
def ofMessage (kind : ProblemKind) (message : String) : Problem := ⟨kind, message, none⟩

/-- The problem that wiring failed. -/
def ofWiring (fault : Wiring.Fault String) : Problem :=
  ⟨.internal, "Service is not ready", some (.wiring fault)⟩

/-- The problem as text, without its source. -/
def text (p : Problem) : String := "[" ++ p.kind.title ++ "] " ++ p.message

/-- The problem with its structure and its source, for the log. -/
def shown (p : Problem) : String :=
  let source := match p.source with
    | some source => ", source: " ++ source.shown
    | none => ""
  "AppError \x7b kind: " ++ p.kind.name ++ ", message: " ++ Text.quoted p.message ++ source ++
    " \x7d"

/-- The response that tells the problem. Its source is left out. -/
def response (p : Problem) : Response :=
  .json p.kind.status (.ofMembers [
    ("type", .string ("https://httpstatuses.io/" ++ toString p.kind.status)),
    ("title", .string p.kind.title), ("status", .ofInt p.kind.status),
    ("detail", .string p.message)])

end Problem

end DeviceIdentity
