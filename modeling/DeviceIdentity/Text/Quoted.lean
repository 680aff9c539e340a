import DeviceIdentity.Text.Hex
import DeviceIdentity.Text.Unprintable

/-!
# Quoted text

How a character, a text or a list of texts is shown inside a message: between quotes, with the
characters that would mislead a reader written as escapes. Unlike in JSON, an unprintable character
is written with its code point between braces.
-/
namespace DeviceIdentity.Text

/-- One character of a quoted text. Only the quote that is in use is escaped. -/
def escaped (quote c : Char) : List Char :=
  if c = '\x00' then ['\\', '0']
  else if c = '\t' then ['\\', 't']
  else if c = '\r' then ['\\', 'r']
  else if c = '\n' then ['\\', 'n']
  else if c = '\\' || c = quote then ['\\', c]
  else if isUnprintable c then ['\\', 'u', '{'] ++ hexOfNat c.toNat ++ ['}']
  else [c]

/-- The character between single quotes. -/
def quotedChar (c : Char) : String :=
  String.ofList ('\'' :: escaped '\'' c ++ ['\''])

/-- The text between double quotes. -/
def quoted (s : String) : String :=
  String.ofList ('"' :: s.toList.flatMap (escaped '"') ++ ['"'])

/-- The texts between brackets, each quoted, with a comma and a space between them. -/
def quotedList (ss : List String) : String :=
  "[" ++ ", ".intercalate (ss.map quoted) ++ "]"

end DeviceIdentity.Text
