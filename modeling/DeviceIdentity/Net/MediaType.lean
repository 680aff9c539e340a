import DeviceIdentity.Net.Header

/-!
# Media types

Telling from the type of a content whether it is JSON: a type and a subtype, perhaps with a suffix
behind a plus sign, and parameters behind semicolons. A text that is no media type is no JSON type
either.
-/
namespace DeviceIdentity.Net.MediaType

/-- A character of a type, a subtype or the name of a parameter. -/
def isToken (c : Char) : Bool :=
  c.isAlphanum || "!#$%&'*+-.^_`|~".toList.contains c

/-- A character between quotes. -/
def isQuoted (c : Char) : Bool := 31 < c.toNat && c.toNat ≠ 127

/-- Where the reading of parameters stands. -/
inductive ParameterState where
  /-- A name is due; so far only blanks have come. -/
  | due
  | name
  /-- An equals sign has come. -/
  | value
  | unquoted
  /-- An opening quote has come. The next character belongs to the value in any case. -/
  | opened
  | quoted
  /-- A closing quote has come. -/
  | closed
deriving DecidableEq, Repr

/-- What a character does to the reading of parameters. -/
def ParameterState.next (c : Char) : ParameterState → Option ParameterState
  | due => if c = ' ' then some due else if isToken c then some name else none
  | name => if isToken c then some name else if c = '=' then some value else none
  | value => if c = '"' then some opened else if isToken c then some unquoted else none
  | unquoted => if isToken c then some unquoted else if c = ';' then some due else none
  | opened => if isQuoted c then some quoted else none
  | quoted => if c = '"' then some closed else if isQuoted c then some quoted else none
  | closed => if c = ' ' then some closed else if c = ';' then some due else none

/-- Whether parameters may end here. -/
def ParameterState.isFinal : ParameterState → Bool
  | due | value | unquoted | closed => true
  | name | opened | quoted => false

/-- Whether a text is a list of parameters. -/
def areParameters (state : ParameterState) : List Char → Bool
  | [] => state.isFinal
  | c :: cs =>
    match state.next c with
    | some state => areParameters state cs
    | none => false

/-- The parts of a subtype: what stands before the last plus sign, and what stands after it. A plus
sign at the very beginning is part of the subtype. -/
def subtypeParts (subtype : List Char) : List Char × Option (List Char) :=
  let after := (subtype.reverse.takeWhile (· ≠ '+')).reverse
  let before := subtype.take (subtype.length - after.length - 1)
  if subtype.contains '+' ∧ before ≠ [] then (before, some after)
  else (subtype, none)

/-- Whether a text is the media type of a JSON content. -/
def isJson (text : List Char) : Bool :=
  let type := text.takeWhile isToken
  match text.dropWhile isToken with
  | '/' :: rest =>
    let subtype := rest.takeWhile isToken
    let parametersFine := match rest.dropWhile isToken with
      | [] => true
      | ';' :: rest => !subtype.isEmpty && areParameters .due rest
      | _ => false
    let (main, suffix) := subtypeParts (subtype.map Char.toLower)
    parametersFine && type.map Char.toLower = "application".toList &&
      (main = "json".toList || suffix = some "json".toList)
  | _ => false

/-- Whether the headers of a request announce a JSON content. -/
def announcesJson (headers : List Header) : Bool :=
  match (firstHeader? "content-type" headers).bind visibleText? with
  | some text => isJson text
  | none => false

end DeviceIdentity.Net.MediaType
