import DeviceIdentity.Configuration.Fault
import DeviceIdentity.Text.Blank
import DeviceIdentity.Text.Glyph
import DeviceIdentity.Text.Pieces
import DeviceIdentity.Text.Quoted

/-!
# Token table

The tokens that were issued to components. A table is written as `component=token` entries with
commas between them; blanks around entries and their parts do not count, nor do blank entries. The
fault of a table tells the number of the entry and nothing of its text, since tokens are secret.
-/
namespace DeviceIdentity

/-- Whether two byte sequences are equal, looking at all of their bytes in any case. -/
def sameBytes (a b : List UInt8) : Bool :=
  a.length == b.length && (a.zip b).foldl (fun acc (x, y) => acc ||| (x ^^^ y)) 0 == 0

/-- Components and their tokens, in the order of the table. -/
structure Tokens where
  entries : List (String × String)
deriving DecidableEq, Repr

namespace Tokens

/-- The component and the token of an entry, neither of them blank. -/
def entry? (text : List Char) : Option (String × String) :=
  match Text.splitOnce '=' text with
  | none => none
  | some (component, token) =>
    let component := Text.trim component
    let token := Text.trim token
    if component ≠ [] ∧ token ≠ [] then some (String.ofList component, String.ofList token)
    else none

/-- The entries of a table that are not blank, without the blanks around them. -/
def entryTexts (text : List Char) : List (List Char) :=
  ((Text.pieces ',' text).map Text.trim).filter (· ≠ [])

/-- The entries of a table, of which the first has that number. -/
def parseEntries (number : Nat) :
    List (List Char) → Except ConfigurationFault (List (String × String))
  | [] => .ok []
  | text :: rest =>
    match entry? text with
    | none => .error (.tokenEntry number)
    | some e => do return e :: (← parseEntries (number + 1) rest)

/-- The table that a text is. -/
def parse (text : String) : Except ConfigurationFault Tokens :=
  (parseEntries 1 (entryTexts text.toList)).map .mk

/-- The component that a token was issued to: the first one in the table. Every entry is
compared. -/
def identify (t : Tokens) (token : String) : Option String :=
  -- The search does not stop at a hit: how long it takes tells nothing about the table.
  t.entries.foldl
    (fun found (component, expected) =>
      if sameBytes (Text.utf8 expected) (Text.utf8 token) && found.isNone then some component
      else found)
    none

/-- The table as text: its components only. -/
def shown (t : Tokens) : String := Text.quotedList (t.entries.map (·.1))

end Tokens

end DeviceIdentity
