import DeviceIdentity.Json.Value
import DeviceIdentity.Text.Hex

/-!
# JSON text

The compact text of a value: no blanks, members in their order, and in strings only the characters
escaped that JSON does not allow as they are. Each function writes in front of a text that is
already there, so that printing takes one pass.
-/
namespace DeviceIdentity

namespace Number

/-- Doubles are written without exponent from `0.00001` up to below `10 ^ 16`. -/
def layout : Decimal.Layout := ⟨-5, 16⟩

/-- The text of a number. -/
def print : Number → List Char
  | integer n => (toString n).toList
  | real x => layout.write x

end Number

namespace Json

/-- A character as it stands in a string. -/
def escape (c : Char) : List Char :=
  if c = '"' then ['\\', '"']
  else if c = '\\' then ['\\', '\\']
  else if c = '\x08' then ['\\', 'b']
  else if c = '\t' then ['\\', 't']
  else if c = '\n' then ['\\', 'n']
  else if c = '\x0c' then ['\\', 'f']
  else if c = '\r' then ['\\', 'r']
  else if c.toNat < 0x20 then
    ['\\', 'u', '0', '0', Text.hexDigit (c.toNat / 16), Text.hexDigit c.toNat]
  else [c]

/-- A string with its quotes, in front of a text. -/
def printString (s : String) (after : List Char) : List Char :=
  '"' :: s.toList.foldr (fun c text => escape c ++ text) ('"' :: after)

mutual

/-- The text of a value, in front of another. -/
def print (after : List Char) : Json → List Char
  | null => "null".toList ++ after
  | bool true => "true".toList ++ after
  | bool false => "false".toList ++ after
  | number n => n.print ++ after
  | string s => printString s after
  | array items => '[' :: printItems (']' :: after) items
  | object ms => '{' :: printMembers ('}' :: after) ms

/-- The items of an array, with commas between them. -/
def printItems (after : List Char) : List Json → List Char
  | [] => after
  | [v] => print after v
  | v :: w :: rest => print (',' :: printItems after (w :: rest)) v

/-- The members of an object, with commas between them. -/
def printMembers (after : List Char) : List (String × Json) → List Char
  | [] => after
  | [m] => printMember after m
  | m :: m' :: rest => printMember (',' :: printMembers after (m' :: rest)) m

/-- A member: its name, a colon and its value. -/
def printMember (after : List Char) : String × Json → List Char
  | (name, v) => printString name (':' :: print after v)

end

/-- The compact text of a value. -/
def compact (value : Json) : String :=
  String.ofList (value.print [])

end Json

end DeviceIdentity
