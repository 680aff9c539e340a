import DeviceIdentity.Text.Glyph

/-!
# Base64

Bytes as letters of six bits each, with padding at the end. Writing follows the standard alphabet;
reading passes over blanks, does without the padding if it is not there, and reads the letters in
blocks of eight. Padding inside a block that is not the last one is a fault.
-/
namespace DeviceIdentity.Pem.Base64

/-- The letter for a value below sixty-four. -/
def letter (n : Nat) : Char :=
  if n < 26 then Char.ofNat (65 + n)
  else if n < 52 then Char.ofNat (71 + n)
  else if n < 62 then Char.ofNat (n - 4)
  else if n = 62 then '+'
  else '/'

/-- The value of a letter. -/
def value? (c : Char) : Option Nat :=
  let n := c.toNat
  if 65 ≤ n ∧ n ≤ 90 then some (n - 65)
  else if 97 ≤ n ∧ n ≤ 122 then some (n - 71)
  else if 48 ≤ n ∧ n ≤ 57 then some (n + 4)
  else if c = '+' then some 62
  else if c = '/' then some 63
  else none

/-! ## Writing -/

/-- The base64 text of bytes: four characters for each three bytes, with padding at the end. -/
def encode : List UInt8 → List Char
  | [] => []
  | [a] => [letter (a.toNat / 4), letter (a.toNat % 4 * 16), '=', '=']
  | [a, b] =>
    [letter (a.toNat / 4), letter (a.toNat % 4 * 16 + b.toNat / 16), letter (b.toNat % 16 * 4), '=']
  | a :: b :: c :: rest =>
    letter (a.toNat / 4) :: letter (a.toNat % 4 * 16 + b.toNat / 16) ::
      letter (b.toNat % 16 * 4 + c.toNat / 64) :: letter (c.toNat % 64) :: encode rest

/-! ## Reading -/

/-- Why a text is no base64 text. -/
inductive Fault where
  | invalidCharacter (byte : UInt8)
  | prematurePadding
  | invalidTrailingPadding
deriving DecidableEq, Repr

namespace Fault

/-- The text of a fault. -/
def message : Fault → String
  | invalidCharacter byte => "InvalidCharacter(" ++ toString byte.toNat ++ ")"
  | prematurePadding => "PrematurePadding"
  | invalidTrailingPadding => "InvalidTrailingPadding"

end Fault

/-- A character of a base64 text. -/
inductive Symbol where
  | bits (n : Nat)
  | padding
deriving DecidableEq, Repr

/-- A character that may stand anywhere in a base64 text. -/
def isBlank (c : Char) : Bool :=
  (9 ≤ c.toNat && c.toNat ≤ 13) || c = ' '

/-- The symbol that a character is. -/
def symbol? (c : Char) : Option Symbol :=
  if c = '=' then some .padding else (value? c).map .bits

/-- The symbols up to the first character that is none, and that character. -/
def symbolsAfter (before : List Symbol) : List Char → List Symbol × Option Char
  | [] => (before.reverse, none)
  | c :: cs =>
    if isBlank c then symbolsAfter before cs
    else
      match symbol? c with
      | some s => symbolsAfter (s :: before) cs
      | none => (before.reverse, some c)

/-- The first byte that encodes a character. -/
def firstByte (c : Char) : UInt8 :=
  (String.utf8EncodeChar c).headD 0

/-- The three bytes of four letters. -/
def threeBytes (a b c d : Nat) : List UInt8 :=
  [UInt8.ofNat (a * 4 + b / 16), UInt8.ofNat (b % 16 * 16 + c / 4), UInt8.ofNat (c % 4 * 64 + d)]

/-- Four symbols that are no padding, before others. -/
def quad : List Symbol → Except Fault (List UInt8)
  | [.bits a, .bits b, .bits c, .bits d] => .ok (threeBytes a b c d)
  | _ => .error .prematurePadding

/-- The last four symbols or fewer, with padding or without. -/
def lastQuad : List Symbol → Except Fault (List UInt8)
  | [] => .ok []
  | [.bits a, .bits b, .bits c, .bits d] => .ok (threeBytes a b c d)
  -- Bits that fill no byte are dropped, whatever they are.
  | [.bits a, .bits b, .bits c, .padding] | [.bits a, .bits b, .bits c] =>
    .ok ((threeBytes a b c 0).take 2)
  | [.bits a, .bits b, .padding, .padding] | [.bits a, .bits b] =>
    .ok ((threeBytes a b 0 0).take 1)
  | _ => .error .invalidTrailingPadding

/-- The last block: up to eight symbols. -/
def lastBlock (symbols : List Symbol) : Except Fault (List UInt8) :=
  if symbols.length ≤ 4 then lastQuad symbols
  else do return (← quad (symbols.take 4)) ++ (← lastQuad (symbols.drop 4))

/-- The bytes of all blocks but the last, after those in `before`, which stand in reverse, and the
symbols of the last block. -/
def blocksAfter (before : List UInt8) : List Symbol → Except Fault (List UInt8 × List Symbol)
  | a :: b :: c :: d :: e :: f :: g :: h :: next :: rest => do
    let bytes := (← quad [a, b, c, d]) ++ (← quad [e, f, g, h])
    blocksAfter (bytes.reverse ++ before) (next :: rest)
  | last => .ok (before.reverse, last)

/-- The bytes of a base64 text. -/
def decode (text : List Char) : Except Fault (List UInt8) := do
  let (symbols, invalid) := symbolsAfter [] text
  -- A fault in a block before the last one is found before a character that is no symbol.
  let (bytes, last) ← blocksAfter [] symbols
  match invalid with
  | some c => .error (.invalidCharacter (firstByte c))
  | none => return bytes ++ (← lastBlock last)

end DeviceIdentity.Pem.Base64
