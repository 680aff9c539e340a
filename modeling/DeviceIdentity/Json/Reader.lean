import DeviceIdentity.Json.Brackets

/-!
# Reading values

A value of any kind, from the front of a text or as the whole text. Brackets are nested only so
deep: a reader is given the number of brackets that may still be opened.
-/
namespace DeviceIdentity.Json

open Text (Glyph)
open Lexeme (skipSpace)

/-- How many brackets may stand around a value. -/
def depthLimit : Nat := 127

/-- A value that is no array and no object; `array` and `object` read those, from behind their
opening bracket. -/
def scalarOr (array object : Reader Json) (rest : List Glyph) : Reading (Json × List Glyph) :=
  match skipSpace rest with
  | [] => .error (.before [] .endInValue)
  | g :: rest =>
    if g = .char 'n' then return (.null, ← Lexeme.literal ['u', 'l', 'l'] rest)
    else if g = .char 't' then return (.bool true, ← Lexeme.literal ['r', 'u', 'e'] rest)
    else if g = .char 'f' then return (.bool false, ← Lexeme.literal ['a', 'l', 's', 'e'] rest)
    else if g = .char '"' then do
      let (s, rest) ← Lexeme.string rest
      return (.string s, rest)
    else if g = .char '-' ∨ (Lexeme.digit? g).isSome then do
      let (n, rest) ← Lexeme.number (g :: rest)
      return (.number n, rest)
    else if g = .char '[' then array rest
    else if g = .char '{' then object rest
    else .error (.inside (g :: rest) .expectedValue)

/-- Reads members until the object ends. The first text bounds their number, as for items. -/
def membersAfter (read : Reader Json) (before : Members) : Bool → List Glyph → Reader Members
  | _, [], rest => .error (.before rest .endInObject)
  | first, _ :: fuel, rest => do
    match ← nextMember first rest with
    | .done rest => return (before, rest)
    | .more rest =>
      let (name, rest) ← Lexeme.string rest
      let (v, rest) ← read (← colon rest)
      membersAfter read (before.set name v) false fuel rest

/-- A value in which so many brackets may be opened. -/
def value : Nat → Reader Json
  | 0 =>
    let tooDeep (rest : List Glyph) : Reading (Json × List Glyph) := .error (.before rest .tooDeep)
    scalarOr tooDeep tooDeep
  | depth + 1 =>
    scalarOr
      (fun rest => do
        let (vs, rest) ← items (value depth) rest
        return (.array vs, rest))
      (fun rest => do
        let (ms, rest) ← membersAfter (value depth) [] true rest rest
        return (.object ms, rest))

/-- Nothing but blanks may be left. -/
def finish (rest : List Glyph) : Reading Unit :=
  match skipSpace rest with
  | [] => .ok ()
  | rest => .error (.inside rest .trailingText)

/-- A whole text, read by `read`. -/
def whole {α : Type} (read : Reader α) (text : List Glyph) : Reading α := do
  let (v, rest) ← read text
  finish rest
  return v

/-- A whole text, read by `read`, or the message why it cannot be read. -/
def decode {α : Type} (read : Reader α) (text : String) : Except String α :=
  let glyphs := Glyph.ofString text
  (whole read glyphs).mapError (·.message glyphs)

/-- The value that a text stands for. -/
def ofText (text : String) : Except String Json :=
  decode (value depthLimit) text

end DeviceIdentity.Json
