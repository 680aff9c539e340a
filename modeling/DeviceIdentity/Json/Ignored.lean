import DeviceIdentity.Json.Brackets

/-!
# Ignored values

Passing over a value that nobody asks for. The value must be well formed, but numbers are not
evaluated, code units need not form characters, and brackets may be nested to any depth: the open
ones are kept in a list.
-/
namespace DeviceIdentity.Json.Ignored

open Text (Glyph)
open Lexeme (skipSpace)

/-- A kind of bracket. -/
inductive Bracket where
  | array
  | object

namespace Bracket

/-- The bracket that closes. -/
def close : Bracket → Glyph
  | array => .char ']'
  | object => .char '}'

/-- The cause to report where the text ends before the closing bracket. -/
def unclosed : Bracket → Cause
  | array => .endInArray
  | object => .endInObject

/-- The cause to report for something else than a comma or the closing bracket. -/
def noComma : Bracket → Cause
  | array => .expectedCommaOrBracket
  | object => .expectedCommaOrBrace

end Bracket

/-- The number of glyphs that an escape takes after its backslash. -/
def escapeSize (rest : List Glyph) : Reading Nat :=
  match rest with
  | .char 'u' :: rest => do
    let _ ← Lexeme.codeUnit rest
    return 5
  | rest => do
    let (_, taken) ← Lexeme.escapeSequence rest
    return taken

/-- The rest after the closing quote of a string. -/
def string (skip : Nat) : List Glyph → Reading (List Glyph)
  | [] => .error (.before [] .endInString)
  | g :: rest =>
    match skip with
    | n + 1 => string n rest
    | 0 =>
      match g with
      | .stray _ => string 0 rest
      | .char c =>
        if c = '"' then .ok rest
        else if c = '\\' then
          match escapeSize rest with
          | .ok taken => string taken rest
          | .error f => .error f
        else if c.toNat < 0x20 then .error (.before (.char c :: rest) .controlCharacter)
        else string 0 rest

/-- The rest after a name, from before its opening quote, and its colon. -/
def name (rest : List Glyph) : Reading (List Glyph) :=
  match skipSpace rest with
  | [] => .error (.before [] .endInObject)
  | .char '"' :: rest => do colon (← string 0 rest)
  | rest => .error (.inside rest .nameNotQuoted)

/-- Where the next value starts between brackets of that kind. -/
def nextValue (bracket : Bracket) (rest : List Glyph) : Reading (List Glyph) :=
  match bracket with
  | .array => .ok rest
  | .object => name rest

/-- After a value: closes the brackets that close here, and passes a comma. Either all brackets are
closed, or the next value is due. -/
def afterValue : List Bracket → List Glyph → Reading (List Bracket × List Glyph)
  | [], rest => .ok ([], rest)
  | b :: outer, rest =>
    match skipSpace rest with
    | [] => .error (.before [] b.unclosed)
    | g :: rest =>
      if g = b.close then afterValue outer rest
      else if g = .char ',' then do return (b :: outer, ← nextValue b rest)
      else .error (.inside (g :: rest) b.noComma)

/-- What follows the opening of a bracket, or a value that is no bracket. -/
inductive Passed where
  | opened (bracket : Bracket) (rest : List Glyph)
  | passed (rest : List Glyph)

/-- Passes over an opening bracket or a value without brackets. -/
def pass (rest : List Glyph) : Reading Passed :=
  match skipSpace rest with
  | [] => .error (.before [] .endInValue)
  | g :: rest =>
    if g = .char 'n' then return .passed (← Lexeme.literal ['u', 'l', 'l'] rest)
    else if g = .char 't' then return .passed (← Lexeme.literal ['r', 'u', 'e'] rest)
    else if g = .char 'f' then return .passed (← Lexeme.literal ['a', 'l', 's', 'e'] rest)
    else if g = .char '"' then return .passed (← string 0 rest)
    else if g = .char '-' ∨ (Lexeme.digit? g).isSome then do
      let (_, rest) ← Lexeme.numberText .invalidNumber (g :: rest)
      return .passed rest
    else if g = .char '[' then return .opened .array rest
    else if g = .char '{' then return .opened .object rest
    else .error (.inside (g :: rest) .expectedValue)

/-- Passes over values until all of the given brackets are closed, or over one value if there are
none. The first text bounds the number of values and opening brackets, as for items. -/
def values : List Glyph → List Bracket → List Glyph → Reading (List Glyph)
  | [], _, rest => .error (.before rest .endInValue)
  | _ :: fuel, outer, rest => do
    match ← pass rest with
    | .opened b rest =>
      match skipSpace rest with
      | [] => .error (.before [] b.unclosed)
      | g :: rest =>
        -- Brackets with nothing between them are a value that has been passed.
        if g = b.close then
          match ← afterValue outer rest with
          | ([], rest) => return rest
          | (outer, rest) => values fuel outer rest
        else values fuel (b :: outer) (← nextValue b (g :: rest))
    | .passed rest =>
      match ← afterValue outer rest with
      | ([], rest) => return rest
      | (outer, rest) => values fuel outer rest

/-- The rest after one value. -/
def value (rest : List Glyph) : Reading (List Glyph) :=
  values rest [] rest

end DeviceIdentity.Json.Ignored
