import DeviceIdentity.Text.Hex

/-!
# SHA-256

The digest that identifies a certificate. A message is padded to blocks of sixteen words; each block
is mixed into eight words of state, with a window of the sixteen words that come next.
-/
namespace DeviceIdentity.Digest

/-- The state between blocks. -/
structure State where
  a : UInt32
  b : UInt32
  c : UInt32
  d : UInt32
  e : UInt32
  f : UInt32
  g : UInt32
  h : UInt32
deriving DecidableEq, Repr

namespace State

/-- The state before the first block: fractions of the square roots of the first eight primes. -/
def initial : State :=
  ⟨0x6a09e667, 0xbb67ae85, 0x3c6ef372, 0xa54ff53a, 0x510e527f, 0x9b05688c, 0x1f83d9ab, 0x5be0cd19⟩

/-- The sum of two states, word by word. -/
def add (s t : State) : State :=
  ⟨s.a + t.a, s.b + t.b, s.c + t.c, s.d + t.d, s.e + t.e, s.f + t.f, s.g + t.g, s.h + t.h⟩

/-- The words of a state, in order. -/
def words (s : State) : List UInt32 := [s.a, s.b, s.c, s.d, s.e, s.f, s.g, s.h]

end State

/-- The constants of the rounds: fractions of the cube roots of the first sixty-four primes. -/
def roundConstants : List UInt32 := [
  0x428a2f98, 0x71374491, 0xb5c0fbcf, 0xe9b5dba5, 0x3956c25b, 0x59f111f1, 0x923f82a4, 0xab1c5ed5,
  0xd807aa98, 0x12835b01, 0x243185be, 0x550c7dc3, 0x72be5d74, 0x80deb1fe, 0x9bdc06a7, 0xc19bf174,
  0xe49b69c1, 0xefbe4786, 0x0fc19dc6, 0x240ca1cc, 0x2de92c6f, 0x4a7484aa, 0x5cb0a9dc, 0x76f988da,
  0x983e5152, 0xa831c66d, 0xb00327c8, 0xbf597fc7, 0xc6e00bf3, 0xd5a79147, 0x06ca6351, 0x14292967,
  0x27b70a85, 0x2e1b2138, 0x4d2c6dfc, 0x53380d13, 0x650a7354, 0x766a0abb, 0x81c2c92e, 0x92722c85,
  0xa2bfe8a1, 0xa81a664b, 0xc24b8b70, 0xc76c51a3, 0xd192e819, 0xd6990624, 0xf40e3585, 0x106aa070,
  0x19a4c116, 0x1e376c08, 0x2748774c, 0x34b0bcb5, 0x391c0cb3, 0x4ed8aa4a, 0x5b9cca4f, 0x682e6ff3,
  0x748f82ee, 0x78a5636f, 0x84c87814, 0x8cc70208, 0x90befffa, 0xa4506ceb, 0xbef9a3f7, 0xc67178f2]

/-- A word rotated to the right. -/
def rotate (w : UInt32) (n : UInt32) : UInt32 := (w >>> n) ||| (w <<< (32 - n))

/-- One round, with the sum of its constant and its word. -/
def round (s : State) (kw : UInt32) : State :=
  let mixE := rotate s.e 6 ^^^ rotate s.e 11 ^^^ rotate s.e 25
  let choice := (s.e &&& s.f) ^^^ (~~~s.e &&& s.g)
  let t := s.h + mixE + choice + kw
  let mixA := rotate s.a 2 ^^^ rotate s.a 13 ^^^ rotate s.a 22
  let majority := (s.a &&& s.b) ^^^ (s.a &&& s.c) ^^^ (s.b &&& s.c)
  ⟨t + mixA + majority, s.a, s.b, s.c, s.d + t, s.e, s.f, s.g⟩

/-- The word sixteen places after the first of a window. -/
def scheduled (window : List UInt32) : UInt32 :=
  let early := window.getD 1 0
  let late := window.getD 14 0
  let mixEarly := rotate early 7 ^^^ rotate early 18 ^^^ (early >>> 3)
  let mixLate := rotate late 17 ^^^ rotate late 19 ^^^ (late >>> 10)
  window.getD 0 0 + mixEarly + window.getD 9 0 + mixLate

/-- All rounds, one for each constant. -/
def rounds (s : State) (window : List UInt32) : List UInt32 → State
  | [] => s
  | k :: ks => rounds (round s (k + window.getD 0 0)) (window.drop 1 ++ [scheduled window]) ks

/-- A block mixed into the state. -/
def mix (s : State) (block : List UInt32) : State :=
  s.add (rounds s block roundConstants)

/-- A number as big-endian bytes, `count` of them. -/
def bigEndian (count n : Nat) : List UInt8 :=
  (List.range count).map fun i => UInt8.ofNat (n / Nat.pow 256 (count - 1 - i))

/-- A message with a one bit, zeros, and its length in bits, so that whole blocks come out. -/
def padded (message : List UInt8) : List UInt8 :=
  -- Behind the message there is room for nine bytes at least: the one bit and the length.
  message ++ 0x80 :: List.replicate ((119 - message.length % 64) % 64) 0 ++
    bigEndian 8 (8 * message.length)

/-- Bytes as big-endian words, after those in `before`, which stand in reverse. -/
def wordsAfter (before : List UInt32) : List UInt8 → List UInt32
  | a :: b :: c :: d :: rest =>
    wordsAfter
      (((a.toUInt32 <<< 24) ||| (b.toUInt32 <<< 16) ||| (c.toUInt32 <<< 8) |||
        d.toUInt32) :: before)
      rest
  | _ => before.reverse

/-- Words mixed into the state, sixteen at a time. -/
def mixBlocks (s : State) : Nat → List UInt32 → State
  | 0, _ => s
  | blocks + 1, words => mixBlocks (mix s (words.take 16)) blocks (words.drop 16)

/-- The digest of a message: thirty-two bytes. -/
def sha256 (message : List UInt8) : List UInt8 :=
  let words := wordsAfter [] (padded message)
  (mixBlocks .initial (words.length / 16) words).words.flatMap fun w => bigEndian 4 w.toNat

/-- The digest of a message in lowercase hexadecimal digits. -/
def hexDigest (message : List UInt8) : String :=
  Text.hexOfBytes (sha256 message)

-- The bytes of `abc`, which fit into one block.
example : hexDigest [0x61, 0x62, 0x63] =
    "ba7816bf8f01cfea414140de5dae2223b00361a396177a9cb410ff61f20015ad" := by
  decide +kernel

-- A message that fills a block, so that its padding takes another one.
example : hexDigest (List.replicate 64 0) =
    "f5a5fd42d16a20302798ef6ed309979b43003d2320d9f0e8ea9831a92759fb4b" := by
  decide +kernel

end DeviceIdentity.Digest
