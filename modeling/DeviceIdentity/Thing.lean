import DeviceIdentity.Json.Typed

/-!
# Things

The identity under which a client device is known: a name of letters, digits and a few signs. A
`Thing` cannot be made with any other name, neither by `Thing.ofName` nor from JSON text.
-/
namespace DeviceIdentity

/-- A character that may stand in the name of a thing. -/
def isThingChar (c : Char) : Bool :=
  c.isAlphanum || c = '-' || c = '_' || c = ':'

/-- A thing, by its name. -/
structure Thing where
  name : String
  name_ne_empty : name ≠ ""
  name_chars : ∀ c ∈ name.toList, isThingChar c = true
deriving Repr

/-- Things are equal if their names are. -/
instance : DecidableEq Thing := fun a b =>
  if h : a.name = b.name then
    .isTrue (by cases a; cases b; cases h; rfl)
  else .isFalse fun heq => h (congrArg Thing.name heq)

/-- Why a text is not the name of a thing. -/
inductive ThingFault where
  | empty
  | invalidCharacter (c : Char)
deriving DecidableEq, Repr

/-- The text of a fault. -/
def ThingFault.message : ThingFault → String
  | empty => "Invalid ThingName: must not be empty"
  | invalidCharacter c =>
    "Invalid ThingName: character " ++ Text.quotedChar c ++ " is not allowed"

namespace Thing

theorem eq_of_name_eq {thing thing' : Thing} (h : thing.name = thing'.name) : thing = thing' := by
  cases thing
  cases thing'
  cases h
  rfl

/-- The thing of that name. The first character that is not allowed is reported. -/
def ofName (name : String) : Except ThingFault Thing :=
  if he : name = "" then .error .empty
  else
    match hf : name.toList.find? (fun c => !isThingChar c) with
    | some c => .error (.invalidCharacter c)
    | none => .ok ⟨name, he, fun c hc => by simpa using List.find?_eq_none.mp hf c hc⟩

theorem name_of_ofName {name : String} {thing : Thing} (h : ofName name = .ok thing) :
    thing.name = name := by
  unfold ofName at h
  split at h
  · cases h
  · split at h
    · cases h
    · cases h; rfl

theorem ofName_name (thing : Thing) : ofName thing.name = .ok thing := by
  unfold ofName
  rw [dif_neg thing.name_ne_empty]
  split
  · next c hc =>
    have := List.find?_some hc
    simp [thing.name_chars c (List.mem_of_find?_eq_some hc)] at this
  · rfl

/-- The JSON value of a thing: its name. -/
def toJson (thing : Thing) : Json := .string thing.name

/-- The thing of a JSON text, or the message why there is none. A name that is refused is reported
without a place. -/
def ofJsonText (text : String) : Except String Thing :=
  let glyphs := Text.Glyph.ofString text
  match Json.text glyphs with
  | .error f => .error (f.message glyphs)
  | .ok (name, rest) =>
    match ofName name with
    | .error fault => .error fault.message
    | .ok thing =>
      match Json.finish rest with
      | .error f => .error (f.message glyphs)
      | .ok () => .ok thing

end Thing

end DeviceIdentity
