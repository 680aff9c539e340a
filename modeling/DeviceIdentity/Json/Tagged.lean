import DeviceIdentity.Json.Ignored
import DeviceIdentity.Json.Typed

/-!
# Reading tagged values

A value that stands beside the name of its case, in an object with one member for each. The name
may come last; then the value is kept as it is until the name tells how to take it. An array with
the name first and the value second is read too.
-/
namespace DeviceIdentity.Json

open Text (Glyph)
open Lexeme (skipSpace)

/-- A case: how its value is read, and how it is taken from a value that was read before. -/
structure TaggedCase (α : Type) where
  read : Reader α
  take : Json → Except Cause α

/-- A type with several cases. -/
structure Tagged (α : Type) where
  /-- How the type is called where something else stands in its place. -/
  expected : String
  /-- The member that names the case. -/
  tag : String
  /-- The member that holds the value. -/
  content : String
  cases : List (String × TaggedCase α)

namespace Tagged

variable {α : Type}

/-- Which of the two members have been read. -/
inductive Seen (α : Type) where
  | nothing
  | tagged (case : TaggedCase α)
  | kept (value : Json)
  | both (a : α)

/-- Reads the name of the case after what has been seen. -/
def seeTag (t : Tagged α) (seen : Seen α) (rest : List Glyph) : Reading (Seen α × List Glyph) :=
  match seen with
  | .nothing => do
    let (case, rest) ← oneOf t.cases (← colon rest)
    return (.tagged case, rest)
  | .kept value => do
    let (case, rest) ← oneOf t.cases (← colon rest)
    match case.take value with
    | .ok a => return (.both a, rest)
    | .error cause => .error (.before (pastObject rest) cause)
  | _ => .error (.before (pastObject rest) (.repeatedMember t.tag))

/-- Reads the value after what has been seen. -/
def seeContent (t : Tagged α) (seen : Seen α) (rest : List Glyph) :
    Reading (Seen α × List Glyph) :=
  match seen with
  -- The object around the value counts as one level of its depth.
  | .nothing => do
    let (value, rest) ← Json.value (depthLimit - 1) (← colon rest)
    return (.kept value, rest)
  | .tagged case => do
    let (a, rest) ← case.read (← colon rest)
    return (.both a, rest)
  | _ => .error (.before (pastObject rest) (.repeatedMember t.content))

/-- Reads members until the object ends. `first` says that none came before; the text before it
bounds their number, as for items. -/
def members (t : Tagged α) : List Glyph → Bool → Seen α → Reader α
  | [], _, _, rest => .error (.before rest .endInObject)
  | _ :: fuel, first, seen, rest => do
    match ← nextMember first rest with
    | .done rest =>
      match seen with
      | .both a => return (a, rest)
      | .tagged _ => .error (.before rest (.missingMember t.content))
      | _ => .error (.before rest (.missingMember t.tag))
    | .more rest =>
      let (name, rest) ← Lexeme.string rest
      if name = t.tag then
        let (seen, rest) ← t.seeTag seen rest
        t.members fuel false seen rest
      else if name = t.content then
        let (seen, rest) ← t.seeContent seen rest
        t.members fuel false seen rest
      else
        let rest ← Ignored.value (← colon rest)
        t.members fuel false seen rest

/-- Reads the name and the value from an array. -/
def pair (t : Tagged α) (rest : List Glyph) : Reading (α × List Glyph) := do
  match ← nextItem true rest with
  | .done rest => .error (.before rest (.wrongLength 0 t.expected))
  | .more rest =>
    let (case, rest) ← caseName t.cases rest
    match ← nextItem false rest with
    | .done rest => .error (.before rest (.wrongLength 1 t.expected))
    | .more rest =>
      let (a, rest) ← case.read rest
      return (a, ← closeArray rest)

/-- A tagged value. -/
def reader (t : Tagged α) (rest : List Glyph) : Reading (α × List Glyph) :=
  match skipSpace rest with
  | [] => .error (.before [] .endInValue)
  | .char '{' :: rest => t.members rest true .nothing rest
  | .char '[' :: rest => t.pair rest
  | rest => .error (mismatch t.expected rest)

end Tagged

end DeviceIdentity.Json
