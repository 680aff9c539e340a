import DeviceIdentity.Glob
import DeviceIdentity.Json.Tagged

/-!
# Attributes

What a policy is evaluated on: values that are compared with the expressions of a policy.
-/
namespace DeviceIdentity

/-- An attribute of a request. -/
inductive Attribute where
  | literal (value : String)
deriving DecidableEq, Repr

namespace Attribute

/-- Whether the attribute satisfies an expression. -/
def satisfies (expression : String) : Attribute → Bool
  | literal value => Glob.accepts expression value

/-- The JSON value of an attribute: its kind and its value. -/
def toJson : Attribute → Json
  | literal value => .ofMembers [("type", .string "StringLiteral"), ("value", .string value)]

/-- How an attribute is read. -/
def tagged : Json.Tagged Attribute where
  expected := "adjacently tagged enum DeviceAttribute"
  tag := "type"
  content := "value"
  cases := [("StringLiteral", {
    read := fun rest => do
      let (value, rest) ← Json.text rest
      return (literal value, rest)
    take := fun
      | .string value => .ok (literal value)
      | v => .error (.wrongType (Json.shown v) "a string") })]

/-- The attribute of a JSON text, or the message why there is none. -/
def ofJsonText (text : String) : Except String Attribute :=
  Json.decode tagged.reader text

end Attribute

end DeviceIdentity
