import DeviceIdentity.Decimal.Shortest
import DeviceIdentity.Named

/-!
# JSON values

Values with exact numbers and with the members of an object in the order of their names. A
repeated name keeps its last value.
-/
namespace DeviceIdentity

open Decimal (Binary64)

/-- A number: an integer, or a double. -/
inductive Number where
  | integer (n : Int)
  | real (x : Binary64)
deriving DecidableEq, Repr

/-- A JSON value. -/
inductive Json where
  | null
  | bool (b : Bool)
  | number (n : Number)
  | string (s : String)
  | array (items : List Json)
  | object (members : List (String × Json))
deriving Repr, Inhabited

/-- The members of an object. -/
abbrev Members := Named Json

namespace Json

/-- The object with these members, whatever their order. -/
def ofMembers (members : List (String × Json)) : Json :=
  object (Named.ofList members)

/-- An integer as a value. -/
def ofInt (n : Int) : Json := number (.integer n)

/-- A list of texts as a value. -/
def ofStrings (ss : List String) : Json := array (ss.map string)

/-- A text, or `null` where there is none. -/
def ofOption (s : Option String) : Json := (s.map string).getD null

/-- The members of an object; nothing else has any. -/
def members : Json → Members
  | object ms => ms
  | _ => []

/-- The member of that name, where the value is an object that has one. -/
def get? (name : String) (value : Json) : Option Json :=
  value.members.get? name

/-- The node at a path from this value. -/
def node? : List String → Json → Option Json
  | [], value => some value
  | name :: path, value => (value.get? name).bind (node? path)

/-- The value with the node at a path set. What is no object on the way becomes one. -/
def setNode (value : Json) : List String → Json → Json
  | [], new => new
  | name :: path, new =>
    object (value.members.set name (setNode ((value.get? name).getD null) path new))

@[simp] theorem node?_nil (value : Json) : node? [] value = some value := rfl

@[simp] theorem setNode_nil (new value : Json) : value.setNode [] new = new := by
  cases value <;> rfl

theorem node?_append (p q : List String) (value : Json) :
    node? (p ++ q) value = (node? p value).bind (node? q) := by
  induction p generalizing value with
  | nil => rfl
  | cons name p ih =>
    simp only [List.cons_append, node?]
    cases value.get? name with
    | none => rfl
    | some v => simp [ih]

@[simp] theorem get?_object (name : String) (ms : Members) : (object ms).get? name = ms.get? name :=
  rfl

end Json

end DeviceIdentity
