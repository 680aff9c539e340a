import DeviceIdentity.Net.Address
import DeviceIdentity.Text.Blank
import DeviceIdentity.Text.Pieces

/-!
# Headers

The headers of a request, in the order in which they came. Names are compared without regard to the
case of letters, and of several headers of one name the first one counts.
-/
namespace DeviceIdentity.Net

/-- A header: its name and the bytes of its value. -/
structure Header where
  name : String
  value : List UInt8
deriving DecidableEq, Repr

/-- Whether two names differ in the case of letters only. -/
def sameName (a b : String) : Bool :=
  a.toList.map Char.toLower == b.toList.map Char.toLower

/-- The text of a header that is visible: blanks, tabs and printable ASCII characters. -/
def visibleText? (value : List UInt8) : Option (List Char) :=
  if value.all fun b => (32 ≤ b && b < 127) || b == 9 then
    some (value.map fun b => Char.ofNat b.toNat)
  else none

/-- The value of the first header of that name. -/
def firstHeader? (name : String) (headers : List Header) : Option (List UInt8) :=
  (headers.find? fun h => sameName h.name name).map (·.value)

/-- The address that a request came from: the first one that a proxy has noted, if it is one, or the
address of the connection. -/
def clientAddress (headers : List Header) (peer : Option Address) : Option Address :=
  let noted := do
    let text ← visibleText? (← firstHeader? "x-forwarded-for" headers)
    Address.ofText? (Text.trim ((Text.pieces ',' text).headD []))
  noted.or peer

end DeviceIdentity.Net
