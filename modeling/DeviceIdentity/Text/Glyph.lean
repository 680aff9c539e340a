/-!
# Glyphs

Bytes read as text where they are text. Every byte sequence has glyphs: the characters that are
encoded in it, and the bytes that belong to no encoded character, left as they are. Readers that
work on glyphs decide themselves where a stray byte is a fault.
-/
namespace DeviceIdentity.Text

/-- A character, or a byte that is part of no character. -/
inductive Glyph where
  | char (c : Char)
  | stray (byte : UInt8)
deriving DecidableEq, Repr

namespace Glyph

/-- The number of bytes that the glyph takes. -/
def byteSize : Glyph → Nat
  | char c => c.utf8Size
  | stray _ => 1

/-- The number of bytes that glyphs take together. -/
def bytesOf (gs : List Glyph) : Nat :=
  gs.foldl (fun n g => n + g.byteSize) 0

/-- The glyphs of a text. -/
def ofString (s : String) : List Glyph :=
  s.toList.map char

/-- The payload of a continuation byte. -/
private def continuation? (b : UInt8) : Option Nat :=
  if 0x80 ≤ b ∧ b < 0xC0 then some (b.toNat - 0x80) else none

/-- The character encoded by `b` and the bytes after it, with the number of bytes after `b` that it
takes. Overlong forms, surrogates and values past the last code point encode nothing. -/
def encoded? (b : UInt8) (rest : List UInt8) : Option (Char × Nat) :=
  if b < 0x80 then some (Char.ofNat b.toNat, 0)
  else if 0xC2 ≤ b ∧ b < 0xE0 then
    match rest with
    | x :: _ => do
      let n := (b.toNat - 0xC0) * 64 + (← continuation? x)
      return (Char.ofNat n, 1)
    | [] => none
  else if 0xE0 ≤ b ∧ b < 0xF0 then
    match rest with
    | x :: y :: _ => do
      let n := ((b.toNat - 0xE0) * 64 + (← continuation? x)) * 64 + (← continuation? y)
      if 0x800 ≤ n ∧ ¬ (0xD800 ≤ n ∧ n < 0xE000) then some (Char.ofNat n, 2) else none
    | _ => none
  else if 0xF0 ≤ b ∧ b < 0xF5 then
    match rest with
    | x :: y :: z :: _ => do
      let n := (((b.toNat - 0xF0) * 64 + (← continuation? x)) * 64 + (← continuation? y)) * 64 +
        (← continuation? z)
      if 0x10000 ≤ n ∧ n < 0x110000 then some (Char.ofNat n, 3) else none
    | _ => none
  else none

/-- The glyphs of `bytes`, after those in `before`, which stand in reverse. -/
private def ofBytesAfter (before : List Glyph) : List UInt8 → List Glyph
  | [] => before.reverse
  | b :: rest =>
    match encoded? b rest with
    | some (c, more) => ofBytesAfter (char c :: before) (rest.drop more)
    | none => ofBytesAfter (stray b :: before) rest
termination_by bytes => bytes.length
decreasing_by
  · simp only [List.length_drop, List.length_cons]; omega
  · simp

/-- The glyphs of a byte sequence. -/
def ofBytes (bytes : List UInt8) : List Glyph :=
  ofBytesAfter [] bytes

private theorem ofBytesAfter_of_ascii {bytes : List UInt8} (h : ∀ b ∈ bytes, b < 0x80)
    (before : List Glyph) :
    ofBytesAfter before bytes =
      before.reverse ++ bytes.map fun b => char (Char.ofNat b.toNat) := by
  induction bytes generalizing before with
  | nil => simp [ofBytesAfter]
  | cons b rest ih =>
    have hencoded : encoded? b rest = some (Char.ofNat b.toNat, 0) :=
      if_pos (h b List.mem_cons_self)
    have hrest : ∀ b ∈ rest, b < 0x80 := fun b hb => h b (List.mem_cons_of_mem _ hb)
    rw [ofBytesAfter, hencoded]
    simp [ih hrest]

/-- Bytes of ASCII characters are these characters. -/
theorem ofBytes_of_ascii {bytes : List UInt8} (h : ∀ b ∈ bytes, b < 0x80) :
    ofBytes bytes = bytes.map fun b => char (Char.ofNat b.toNat) :=
  ofBytesAfter_of_ascii h []

/-- The text that the glyphs are, unless there is a stray byte among them. -/
def toText? (gs : List Glyph) : Option String :=
  go [] gs
where
  go (before : List Char) : List Glyph → Option String
    | [] => some (String.ofList before.reverse)
    | char c :: rest => go (c :: before) rest
    | stray _ :: _ => none

end Glyph

/-- The text that a byte sequence encodes, if it encodes one. -/
def ofUtf8? (bytes : List UInt8) : Option String :=
  Glyph.toText? (Glyph.ofBytes bytes)

/-- The bytes that encode a text. -/
def utf8 (s : String) : List UInt8 :=
  s.toList.flatMap String.utf8EncodeChar

end DeviceIdentity.Text
