/-!
# Hexadecimal text

Bytes as two lowercase hexadecimal digits each, and numbers as hexadecimal digits without padding.
-/
namespace DeviceIdentity.Text

/-- The lowercase digit for a value below sixteen. -/
def hexDigit (n : Nat) : Char :=
  Nat.digitChar (n % 16)

/-- The value of a hexadecimal digit of either case. -/
def hexValue? (c : Char) : Option Nat :=
  let n := c.toNat
  if 48 ≤ n ∧ n ≤ 57 then some (n - 48)
  else if 97 ≤ n ∧ n ≤ 102 then some (n - 87)
  else if 65 ≤ n ∧ n ≤ 70 then some (n - 55)
  else none

/-- Two digits for each byte, the high half first. -/
def hexOfBytes (bytes : List UInt8) : String :=
  String.ofList (bytes.flatMap fun b => [hexDigit (b.toNat / 16), hexDigit b.toNat])

/-- A number in base sixteen, without leading zeros. -/
def hexOfNat (n : Nat) : List Char :=
  Nat.toDigits 16 n

end DeviceIdentity.Text
