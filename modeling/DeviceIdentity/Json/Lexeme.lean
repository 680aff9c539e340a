import DeviceIdentity.Decimal.Binary64
import DeviceIdentity.Json.Failure
import DeviceIdentity.Json.Value
import DeviceIdentity.Text.Hex

/-!
# Lexemes

The smallest parts of a JSON text: blanks, the three literals, strings and numbers. A string is read
in one pass over its glyphs; an escape looks ahead, says which character it stands for and how many
glyphs the pass skips. A number is first taken apart (`NumberText`) and then evaluated.
-/
namespace DeviceIdentity.Json.Lexeme

open Text (Glyph hexValue?)

/-! ## Blanks and literals -/

/-- A blank between lexemes. -/
def isSpace : Glyph → Bool
  | .char c => c = ' ' || c = '\n' || c = '\t' || c = '\r'
  | .stray _ => false

/-- What is left after leading blanks. -/
def skipSpace (rest : List Glyph) : List Glyph :=
  rest.dropWhile isSpace

/-- The rest after the letters of a literal. -/
def literal : List Char → List Glyph → Reading (List Glyph)
  | [], rest => .ok rest
  | _ :: _, [] => .error (.before [] .endInValue)
  | c :: cs, g :: rest =>
    if g = .char c then literal cs rest else .error (.inside (g :: rest) .expectedLiteral)

/-! ## Strings -/

/-- The value of four hexadecimal digits at the front. -/
def fourDigits? : List Glyph → Option Nat
  | .char a :: .char b :: .char c :: .char d :: _ => do
    return (((← hexValue? a) * 16 + (← hexValue? b)) * 16 + (← hexValue? c)) * 16 + (← hexValue? d)
  | _ => none

/-- The code unit that four hexadecimal digits stand for. Four bytes are taken in any case. -/
def codeUnit (rest : List Glyph) : Reading Nat :=
  if Glyph.bytesOf (rest.take 4) < 4 then .error (.before [] .endInString)
  else
    match fourDigits? rest with
    | some unit => .ok unit
    | none => .error ⟨.invalidEscape, Glyph.bytesOf rest - 4, []⟩

/-- The character of the code unit `high`, with the second half of a pair where it needs one, and
the number of glyphs that this half takes. `rest` stands after the digits of `high`. -/
def pairedUnit (high : Nat) (rest : List Glyph) : Reading (Char × Nat) :=
  if 0xDC00 ≤ high ∧ high < 0xE000 then .error (.before rest .loneSurrogate)
  else if high < 0xD800 ∨ 0xE000 ≤ high then .ok (Char.ofNat high, 0)
  else
    match rest with
    | [] => .error (.before [] .endInString)
    | .char '\\' :: [] => .error (.before [] .endInString)
    | .char '\\' :: .char 'u' :: rest => do
      let low ← codeUnit rest
      if 0xDC00 ≤ low ∧ low < 0xE000 then
        return (Char.ofNat ((high - 0xD800) * 0x400 + (low - 0xDC00) + 0x10000), 6)
      else .error (.before (rest.drop 4) .loneSurrogate)
    | .char '\\' :: rest => .error (.inside rest .unfinishedPair)
    | rest => .error (.inside rest .unfinishedPair)

/-- The character that an escape stands for, and the number of glyphs after the backslash that the
escape takes. -/
def escapeSequence (rest : List Glyph) : Reading (Char × Nat) :=
  match rest with
  | [] => .error (.before [] .endInString)
  | .char '"' :: _ => .ok ('"', 1)
  | .char '\\' :: _ => .ok ('\\', 1)
  | .char '/' :: _ => .ok ('/', 1)
  | .char 'b' :: _ => .ok ('\x08', 1)
  | .char 'f' :: _ => .ok ('\x0c', 1)
  | .char 'n' :: _ => .ok ('\n', 1)
  | .char 'r' :: _ => .ok ('\r', 1)
  | .char 't' :: _ => .ok ('\t', 1)
  | .char 'u' :: rest => do
    let (c, more) ← pairedUnit (← codeUnit rest) (rest.drop 4)
    return (c, 5 + more)
  | rest => .error (.inside rest .invalidEscape)

/-- The number of bytes from the first stray byte on, with one more character. It is zero where no
byte is stray. -/
def straysWith (c : Char) (strays : Nat) : Nat :=
  if strays = 0 then 0 else strays + c.utf8Size

/-- The contents of a string up to its closing quote. `before` holds the characters so far in
reverse, `strays` the number of bytes that the contents take from the first stray byte on, `skip`
the number of glyphs that belong to the last escape. A stray byte is a fault once the string is
complete; it is looked for that many bytes before the end. -/
def stringBody (before : List Char) (strays skip : Nat) : Reader String
  | [] => .error (.before [] .endInString)
  | g :: rest =>
    match skip with
    | n + 1 => stringBody before strays n rest
    | 0 =>
      match g with
      | .stray _ => stringBody before (strays + 1) 0 rest
      | .char c =>
        if c = '"' then
          if strays = 0 then .ok (String.ofList before.reverse, rest)
          else .error ⟨.notUnicode, Glyph.bytesOf rest + strays, []⟩
        else if c = '\\' then
          match escapeSequence rest with
          | .ok (c, taken) => stringBody (c :: before) (straysWith c strays) taken rest
          | .error f => .error f
        else if c.toNat < 0x20 then .error (.inside (.char c :: rest) .controlCharacter)
        else stringBody (c :: before) (straysWith c strays) 0 rest

/-- A string, from behind its opening quote. -/
def string : Reader String :=
  stringBody [] 0 0

/-! ## Numbers -/

/-- The parts of a number as it is written: the digits before and after the point, and the sign and
the digits of the exponent. -/
structure NumberText where
  negative : Bool
  whole : List Nat
  fraction : List Nat
  exponent : Option (Bool × List Nat)
deriving DecidableEq, Repr

/-- The value of a decimal digit. -/
def digit? : Glyph → Option Nat
  | .char c => if '0' ≤ c ∧ c ≤ '9' then some (c.toNat - 48) else none
  | .stray _ => none

/-- The digits at the front, after those in `before`, which stand in reverse. -/
def digitsAfter (before : List Nat) : List Glyph → List Nat × List Glyph
  | [] => (before.reverse, [])
  | g :: rest =>
    match digit? g with
    | some d => digitsAfter (d :: before) rest
    | none => (before.reverse, g :: rest)

/-- The digits at the front. -/
def digits (rest : List Glyph) : List Nat × List Glyph :=
  digitsAfter [] rest

/-- The digits before the point: a zero alone, or digits that do not start with one. `atEnd` is the
cause to report where the text ends instead. -/
def wholePart (atEnd : Cause) (rest : List Glyph) : Reading (List Nat × List Glyph) :=
  match digits rest with
  | ([], []) => .error (.before [] atEnd)
  | ([], rest) => .error (.inside rest .invalidNumber)
  | (0 :: _ :: _, _) => .error (.inside (rest.drop 1) .invalidNumber)
  | (ds, rest) => .ok (ds, rest)

/-- The digits after a point, if there is a point. -/
def fractionPart (atEnd : Cause) : Reader (List Nat)
  | .char '.' :: rest =>
    match digits rest with
    | ([], []) => .error (.before [] atEnd)
    | ([], rest) => .error (.inside rest .invalidNumber)
    | (ds, rest) => .ok (ds, rest)
  | rest => .ok ([], rest)

/-- The sign and the digits of an exponent, from behind its letter. -/
def exponentDigits (atEnd : Cause) (rest : List Glyph) : Reading ((Bool × List Nat) × List Glyph) :=
  let (negative, rest) := match rest with
    | .char '+' :: rest => (false, rest)
    | .char '-' :: rest => (true, rest)
    | rest => (false, rest)
  match digits rest with
  | ([], []) => .error (.before [] atEnd)
  | ([], rest) => .error (.inside rest .invalidNumber)
  | (ds, rest) => .ok ((negative, ds), rest)

/-- The exponent, if there is one. -/
def exponentPart (atEnd : Cause) : Reader (Option (Bool × List Nat))
  | .char 'e' :: rest | .char 'E' :: rest => do
    let (e, rest) ← exponentDigits atEnd rest
    return (some e, rest)
  | rest => .ok (none, rest)

/-- The parts of a number. -/
def numberText (atEnd : Cause) (rest : List Glyph) : Reading (NumberText × List Glyph) := do
  let (negative, rest) := match rest with
    | .char '-' :: rest => (true, rest)
    | rest => (false, rest)
  let (whole, rest) ← wholePart atEnd rest
  let (fraction, rest) ← fractionPart atEnd rest
  let (exponent, rest) ← exponentPart atEnd rest
  return (⟨negative, whole, fraction, exponent⟩, rest)

/-- Digits put behind a number while it stays below `limit`, and how many are left over. -/
def gather (limit n : Nat) : List Nat → Nat × Nat
  | [] => (n, 0)
  | d :: ds => if n * 10 + d < limit then gather limit (n * 10 + d) ds else (n, ds.length + 1)

/-- The value of a number. Sixty-four bits of its digits are kept; of those left over, the ones
before the point count as zeros and the ones after it not at all. An integer within the range of
signed or unsigned 64-bit words stays an integer, except for `-0`. -/
def NumberText.value (t : NumberText) (rest : List Glyph) : Reading Number :=
  let (significand, zeros) := gather (Nat.pow 2 64) 0 t.whole
  let real (significand : Nat) (exponent : Int) : Reading Number :=
    match Decimal.Binary64.ofDecimal t.negative significand exponent with
    | some x => .ok (.real x)
    | none => .error (.before rest .numberOutOfRange)
  let (significand', left) := gather (Nat.pow 2 64) significand t.fraction
  let places : Int := zeros - ((t.fraction.length - left : Nat) : Int)
  match t.exponent with
  | some (down, ds) =>
    match gather (Nat.pow 2 31) 0 ds with
    | (e, 0) => real significand' (if down then places - e else places + e)
    -- An exponent out of range makes the number a zero, or no number at all.
    | (_, left) =>
      if significand' = 0 ∨ down then .ok (.real (.zero t.negative))
      else .error ⟨.numberOutOfRange, Glyph.bytesOf rest + (left - 1), []⟩
  | none =>
    if t.fraction = [] ∧ zeros = 0 then
      if t.negative then
        if 1 ≤ significand ∧ significand ≤ Nat.pow 2 63 then .ok (.integer (-significand))
        else real significand 0
      else .ok (.integer significand)
    else real significand' places

/-- A number. -/
def number (rest : List Glyph) : Reading (Number × List Glyph) := do
  let (t, rest) ← numberText .endInValue rest
  return (← t.value rest, rest)

end DeviceIdentity.Json.Lexeme
