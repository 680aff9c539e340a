import DeviceIdentity.Json.Reader
import DeviceIdentity.Json.Printer
import DeviceIdentity.Text.Quoted

/-!
# Reading values of one kind

Readers that accept a text, a list, one of a few names, or nothing in place of a value. A value of
another kind is refused with what it is and what was expected.
-/
namespace DeviceIdentity.Json

open Text (Glyph)
open Lexeme (skipSpace)

/-- How a number is shown where it was not expected. -/
def shownNumber : Number → String
  | .integer n => "integer `" ++ toString n ++ "`"
  | n@(.real _) => "floating point `" ++ String.ofList n.print ++ "`"

/-- How a value is shown where it was not expected. -/
def shown : Json → String
  | .null => "null"
  | .bool b => "boolean `" ++ (if b then "true" else "false") ++ "`"
  | .number n => shownNumber n
  | .string s => "string " ++ Text.quoted s
  | .array _ => "sequence"
  | .object _ => "map"

/-- The failure of a value of another kind than expected. Brackets are not opened; any other value
is passed, unless it has a fault of its own. `rest` starts with no blank. -/
def mismatch (expected : String) (rest : List Glyph) : Failure :=
  let opened (v : Json) (_ : List Glyph) : Reading (Json × List Glyph) :=
    .error (.before rest (.wrongType (shown v) expected))
  match scalarOr (opened (.array [])) (opened (.object [])) rest with
  | .ok (v, rest) => .before rest (.wrongType (shown v) expected)
  | .error f => f

/-- A string. -/
def text (rest : List Glyph) : Reading (String × List Glyph) :=
  match skipSpace rest with
  | [] => .error (.before [] .endInValue)
  | .char '"' :: rest => Lexeme.string rest
  | rest => .error (mismatch "a string" rest)

/-- A list of values of one kind. -/
def list {α : Type} (read : Reader α) (rest : List Glyph) : Reading (List α × List Glyph) :=
  match skipSpace rest with
  | [] => .error (.before [] .endInValue)
  | .char '[' :: rest => items read rest
  | rest => .error (mismatch "a sequence" rest)

/-- A value of one kind, or `null`. -/
def optional {α : Type} (read : Reader α) (rest : List Glyph) :
    Reading (Option α × List Glyph) :=
  match skipSpace rest with
  | .char 'n' :: rest => return (none, ← Lexeme.literal ['u', 'l', 'l'] rest)
  | rest => do
    let (v, rest) ← read rest
    return (some v, rest)

/-- The case of that name. -/
def namedCase {α : Type} (cases : List (String × α)) (name : String) (rest : List Glyph) :
    Reading α :=
  match cases.lookup name with
  | some v => .ok v
  | none => .error (.before rest (.unknownCase name (cases.map (·.1))))

/-- The name of one of a few cases. -/
def caseName {α : Type} (cases : List (String × α)) (rest : List Glyph) :
    Reading (α × List Glyph) :=
  match skipSpace rest with
  | [] => .error (.before [] .endInValue)
  | .char '"' :: rest => do
    let (name, rest) ← Lexeme.string rest
    return (← namedCase cases name rest, rest)
  | rest => .error (mismatch "variant identifier" rest)

/-- Nothing but `null`. -/
def unit (rest : List Glyph) : Reading (List Glyph) :=
  match skipSpace rest with
  | [] => .error (.before [] .endInValue)
  | .char 'n' :: rest => Lexeme.literal ['u', 'l', 'l'] rest
  | rest => .error (mismatch "unit" rest)

/-- One of a few named cases: the name alone, or an object with the name as its only member and
`null` as its value. -/
def oneOf {α : Type} (cases : List (String × α)) (rest : List Glyph) :
    Reading (α × List Glyph) :=
  match skipSpace rest with
  | [] => .error (.before [] .endInValue)
  | .char '"' :: rest => caseName cases (.char '"' :: rest)
  | .char '{' :: rest =>
    match skipSpace rest with
    | [] => .error (.before [] .endInObject)
    | .char '}' :: rest => .error (.inside (.char '}' :: rest) .expectedValue)
    | .char '"' :: rest => do
      let (v, rest) ← caseName cases (.char '"' :: rest)
      let rest ← unit (← colon rest)
      match skipSpace rest with
      | [] => .error (.before [] .endInObject)
      | .char '}' :: rest => return (v, rest)
      | rest => .error (.before rest .expectedValue)
    | rest => .error (.inside rest .nameNotQuoted)
  | rest => .error (.inside rest .expectedValue)

end DeviceIdentity.Json
