import DeviceIdentity.Json.Lexeme

/-!
# Brackets

What stands between the values in an array or an object: commas, colons, names and closing brackets.
The readers of values and those of records share these rules, and so refuse the same texts.
-/
namespace DeviceIdentity.Json

open Text (Glyph)
open Lexeme (skipSpace)

/-- What comes next between brackets: the end, or a part that starts here. -/
inductive Next where
  | done (rest : List Glyph)
  | more (rest : List Glyph)

/-- Whether another item follows in an array. `first` says that none came before. -/
def nextItem (first : Bool) (rest : List Glyph) : Reading Next :=
  match skipSpace rest with
  | [] => .error (.before [] .endInArray)
  | .char ']' :: rest => .ok (.done rest)
  | g :: rest =>
    if first then .ok (.more (g :: rest))
    else if g = .char ',' then
      match skipSpace rest with
      | [] => .error (.before [] .endInValue)
      | .char ']' :: rest => .error (.inside (.char ']' :: rest) .trailingComma)
      | rest => .ok (.more rest)
    else .error (.inside (g :: rest) .expectedCommaOrBracket)

/-- Whether another member follows in an object. A member starts behind the quote of its name. -/
def nextMember (first : Bool) (rest : List Glyph) : Reading Next :=
  match skipSpace rest with
  | [] => .error (.before [] .endInObject)
  | .char '}' :: rest => .ok (.done rest)
  | g :: rest =>
    if first then
      if g = .char '"' then .ok (.more rest) else .error (.inside (g :: rest) .nameNotQuoted)
    else if g = .char ',' then
      match skipSpace rest with
      | [] => .error (.before [] .endInValue)
      | .char '"' :: rest => .ok (.more rest)
      | .char '}' :: rest => .error (.inside (.char '}' :: rest) .trailingComma)
      | rest => .error (.inside rest .nameNotQuoted)
    else .error (.inside (g :: rest) .expectedCommaOrBrace)

/-- The rest after the colon behind a name. -/
def colon (rest : List Glyph) : Reading (List Glyph) :=
  match skipSpace rest with
  | [] => .error (.before [] .endInObject)
  | .char ':' :: rest => .ok rest
  | rest => .error (.inside rest .expectedColon)

/-- The rest after the bracket that must close an array here. -/
def closeArray (rest : List Glyph) : Reading (List Glyph) :=
  match skipSpace rest with
  | [] => .error (.before [] .endInArray)
  | .char ']' :: rest => .ok rest
  -- All items have been read, so what follows a comma is too much.
  | .char ',' :: rest =>
    match skipSpace rest with
    | .char ']' :: rest => .error (.inside (.char ']' :: rest) .trailingComma)
    | rest => .error (.inside rest .trailingText)
  | rest => .error (.inside rest .trailingText)

/-- What is left after the bracket that closes an object, if it stands here. A mismatch found inside
the object is reported there. -/
def pastObject (rest : List Glyph) : List Glyph :=
  match skipSpace rest with
  | .char '}' :: rest => rest
  | rest => rest

/-- Reads items until the array ends. Failures are seen from under the index of their item. The
first text bounds the number of items: no item is shorter than a glyph, so that it is used up no
earlier than the text that is read. -/
def itemsAfter {α : Type} (read : Reader α) (before : List α) : List Glyph → Reader (List α)
  | [], rest => .error (.before rest .endInArray)
  | _ :: fuel, rest => do
    match ← nextItem before.isEmpty rest with
    | .done rest => return (before.reverse, rest)
    | .more rest =>
      match read rest with
      | .ok (v, rest) => itemsAfter read (v :: before) fuel rest
      | .error f => .error (f.under (.item before.length))

/-- The items of an array, from behind its opening bracket. -/
def items {α : Type} (read : Reader α) (rest : List Glyph) : Reading (List α × List Glyph) :=
  itemsAfter read [] rest rest

end DeviceIdentity.Json
