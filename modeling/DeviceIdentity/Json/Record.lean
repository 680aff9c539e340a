import DeviceIdentity.Json.Ignored
import DeviceIdentity.Json.Typed

/-!
# Reading records

A record type is described by an enumeration of its fields: their names, their order, and how each
is read. It is read from an object, in which the fields come in any order and other members are
passed over, or from an array with the fields in their order.
-/
namespace DeviceIdentity.Json

open Text (Glyph)
open Lexeme (skipSpace)

/-- The fields of a record type, `F`, with the type of each. -/
structure Record (F : Type) (β : F → Type) where
  /-- How the record is called where something else stands in its place. -/
  expected : String
  /-- All fields, in their order. -/
  fields : List F
  name : F → String
  read : (f : F) → Reader (β f)
  /-- What a field holds that is not there, if it need not be there. -/
  absent : (f : F) → Option (β f)
  all_fields : ∀ f, f ∈ fields

/-- The fields of a record that have been read so far. -/
def Fields {F : Type} (β : F → Type) := (f : F) → Option (β f)

namespace Fields

variable {F : Type} {β : F → Type}

/-- No field has been read. -/
def none : Fields β := fun _ => Option.none

@[simp] theorem none_apply (f : F) : (none : Fields β) f = Option.none := rfl

variable [DecidableEq F]

/-- The fields with one more. -/
def set (fields : Fields β) (f : F) (v : β f) : Fields β :=
  fun g => if h : f = g then some (h ▸ v) else fields g

@[simp] theorem set_self (fields : Fields β) (f : F) (v : β f) : fields.set f v f = some v := by
  simp [set]

theorem set_of_ne {f g : F} (h : f ≠ g) (fields : Fields β) (v : β f) :
    fields.set f v g = fields g := by
  simp [set, h]

end Fields

namespace Record

variable {F : Type} {β : F → Type} [DecidableEq F]

/-- A field that was read, or what it holds if it is not there. -/
def held (r : Record F β) (fields : Fields β) (f : F) : Option (β f) :=
  (fields f).or (r.absent f)

/-- The whole record, or the first field that is missing. -/
def complete (r : Record F β) (fields : Fields β) : Except F ((f : F) → β f) :=
  match h : r.fields.find? (fun f => (r.held fields f).isNone) with
  | some f => .error f
  | none =>
    .ok fun f => (r.held fields f).get (by
      have := List.find?_eq_none.mp h f (r.all_fields f)
      simpa [Option.isSome_iff_ne_none] using this)

/-- The expectation of a record in the form of an array. -/
def expectedItems (r : Record F β) : String :=
  r.expected ++ " with " ++ toString r.fields.length ++
    (if r.fields.length = 1 then " element" else " elements")

/-- Reads members until the object ends. `first` says that none came before; the text before it
bounds their number, as for items. -/
def members (r : Record F β) : List Glyph → Bool → Fields β → Reader (Fields β)
  | [], _, _, rest => .error ((Failure.before rest .endInObject).under .unnamed)
  | _ :: fuel, first, fields, rest =>
    match nextMember first rest with
    | .error f => .error (f.under .unnamed)
    | .ok (.done rest) => .ok (fields, rest)
    | .ok (.more rest) =>
      match Lexeme.string rest with
      | .error f => .error (f.under .unnamed)
      | .ok (name, rest) =>
        match r.fields.find? (fun f => r.name f = name) with
        | some f =>
          -- A repeated name is refused before its value is looked at.
          if (fields f).isSome then .error (.before (pastObject rest) (.repeatedMember name))
          else
            match colon rest with
            | .error e => .error e
            | .ok rest =>
              match r.read f rest with
              | .ok (v, rest) => r.members fuel false (fields.set f v) rest
              | .error e => .error (e.under (.member name))
        -- Nobody asks for this member, and yet its value must be well formed.
        | none =>
          match colon rest with
          | .error e => .error e
          | .ok rest =>
            match Ignored.value rest with
            | .ok rest => r.members fuel false fields rest
            | .error e => .error (e.under (.member name))

/-- Reads the fields that are left, then the end of the array. `index` counts those before. -/
def items (r : Record F β) (index : Nat) : List F → Fields β → Reader (Fields β)
  | [], fields, rest => return (fields, ← closeArray rest)
  | f :: fs, fields, rest => do
    match ← nextItem (index == 0) rest with
    | .done rest => .error (.before rest (.wrongLength index r.expectedItems))
    | .more rest =>
      match r.read f rest with
      | .ok (v, rest) => r.items (index + 1) fs (fields.set f v) rest
      | .error e => .error (e.under (.item index))

/-- A record. -/
def reader (r : Record F β) (rest : List Glyph) : Reading (((f : F) → β f) × List Glyph) :=
  match skipSpace rest with
  | [] => .error (.before [] .endInValue)
  | .char '{' :: rest => do
    let (fields, rest) ← r.members rest true .none rest
    match r.complete fields with
    | .ok v => return (v, rest)
    | .error f => .error (.before rest (.missingMember (r.name f)))
  | .char '[' :: rest => do
    let (fields, rest) ← r.items 0 r.fields .none rest
    match r.complete fields with
    | .ok v => return (v, rest)
    | .error f => .error (.before rest (.missingMember (r.name f)))
  | rest => .error (mismatch r.expected rest)

end Record

end DeviceIdentity.Json
