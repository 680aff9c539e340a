import DeviceIdentity.Text.Hex

/-!
# Addresses

Internet addresses of both versions, read and written as text. Reading is strict: no zeros before a
decimal number, at most four digits in a group, nothing left over. Writing shortens the first of the
longest runs of zeros.
-/
namespace DeviceIdentity.Net

/-- An internet address. -/
inductive Address where
  | v4 (a b c d : Nat)
  /-- Eight groups of sixteen bits. -/
  | v6 (groups : List Nat)
deriving DecidableEq, Repr

namespace Address

/-! ## Reading -/

/-- Digits at the front, as their values. -/
def digitsOf (value? : Char → Option Nat) : List Char → List Nat × List Char
  | [] => ([], [])
  | c :: cs =>
    match value? c with
    | some d => ((d :: (digitsOf value? cs).1), (digitsOf value? cs).2)
    | none => ([], c :: cs)

/-- The value of a decimal digit. -/
def decimal? (c : Char) : Option Nat :=
  if c.isDigit then some (c.toNat - 48) else none

/-- A number up to 255 at the front: up to three digits, the first of them no zero unless it is the
only one. -/
def octet (cs : List Char) : Option (Nat × List Char) :=
  match digitsOf decimal? cs with
  | ([], _) => none
  | (0 :: _ :: _, _) => none
  | (ds, rest) =>
    let n := ds.foldl (fun n d => n * 10 + d) 0
    if ds.length ≤ 3 ∧ n < 256 then some (n, rest) else none

/-- A group of up to four hexadecimal digits at the front. -/
def group (cs : List Char) : Option (Nat × List Char) :=
  match digitsOf Text.hexValue? cs with
  | ([], _) => none
  | (ds, rest) => if ds.length ≤ 4 then some (ds.foldl (fun n d => n * 16 + d) 0, rest) else none

/-- The rest after a character that must stand at the front. -/
def passing (c : Char) : List Char → Option (List Char)
  | d :: cs => if d = c then some cs else none
  | [] => none

/-- Four numbers with points between them. -/
def quad (cs : List Char) : Option ((Nat × Nat × Nat × Nat) × List Char) := do
  let (a, cs) ← octet cs
  let (b, cs) ← octet (← passing '.' cs)
  let (c, cs) ← octet (← passing '.' cs)
  let (d, cs) ← octet (← passing '.' cs)
  return ((a, b, c, d), cs)

/-- Up to `limit` groups with colons between them. Four numbers with points may stand for the last
two; whether they did is the second answer. -/
def groups (first : Bool) : Nat → List Char → List Nat × Bool × List Char
  | 0, cs => ([], false, cs)
  | limit + 1, cs =>
    match if first then some cs else passing ':' cs with
    | none => ([], false, cs)
    | some next =>
      -- Four numbers take the place of two groups, so they cannot be the last one alone.
      match if limit = 0 then none else quad next with
      | some ((a, b, c, d), rest) => ([a * 256 + b, c * 256 + d], true, rest)
      | none =>
        match group next with
        | some (g, rest) =>
          let (gs, mixed, rest) := groups false limit rest
          (g :: gs, mixed, rest)
        | none => ([], false, cs)

/-- Eight groups, of which a run of zeros may be left out. -/
def eightGroups (cs : List Char) : Option (List Nat × List Char) :=
  let (front, mixed, rest) := groups true 8 cs
  if front.length = 8 then some (front, rest)
  else if mixed then none
  else do
    let rest ← passing ':' (← passing ':' rest)
    -- The two colons stand for one group at least.
    let (back, _, rest) := groups true (7 - front.length) rest
    return (front ++ List.replicate (8 - front.length - back.length) 0 ++ back, rest)

/-- The address that a text is. -/
def ofText? (text : List Char) : Option Address :=
  match quad text with
  | some ((a, b, c, d), rest) => if rest = [] then some (.v4 a b c d) else none
  | none =>
    match eightGroups text with
    | some (gs, rest) => if rest = [] then some (.v6 gs) else none
    | none => none

/-- A decimal number below a limit at the front. Zeros may stand before it. -/
def numberBelow (limit : Nat) (cs : List Char) : Option (Nat × List Char) :=
  match digitsOf decimal? cs with
  | ([], _) => none
  | (ds, rest) =>
    let n := ds.foldl (fun n d => n * 10 + d) 0
    if n < limit then some (n, rest) else none

/-- The address in a text that gives a port too. An address with colons of its own stands in
brackets, and the number of its zone may follow it there. -/
def ofSocket? (text : List Char) : Option Address := do
  let (address, rest) ← match text with
    | '[' :: text => do
      let (gs, rest) ← eightGroups text
      let rest ← match rest with
        | '%' :: rest => (numberBelow (Nat.pow 2 32) rest).map (·.2)
        | rest => some rest
      pure (v6 gs, ← passing ']' rest)
    | text => do
      let ((a, b, c, d), rest) ← quad text
      pure (v4 a b c d, rest)
  let (_, rest) ← numberBelow (Nat.pow 2 16) (← passing ':' rest)
  if rest = [] then some address else none

/-! ## Writing -/

/-- Four numbers with points between them. -/
def quadText (a b c d : Nat) : String :=
  toString a ++ "." ++ toString b ++ "." ++ toString c ++ "." ++ toString d

/-- Groups with colons between them. -/
def groupsText (gs : List Nat) : String :=
  ":".intercalate (gs.map fun g => String.ofList (Text.hexOfNat g))

/-- The number of zeros at the front. -/
def leadingZeros (gs : List Nat) : Nat := (gs.takeWhile (· == 0)).length

/-- Where the first of the longest runs of zeros starts, and how long it is. `best` is the longest
run before index `i`. -/
def longestRun (i : Nat) (best : Nat × Nat) : List Nat → Nat × Nat
  | [] => best
  | g :: gs =>
    let run := leadingZeros (g :: gs)
    longestRun (i + 1) (if best.2 < run then (i, run) else best) gs

/-- The text of an address. -/
def text : Address → String
  | v4 a b c d => quadText a b c d
  | v6 [0, 0, 0, 0, 0, 0xFFFF, g, h] =>
    "::ffff:" ++ quadText (g / 256) (g % 256) (h / 256) (h % 256)
  | v6 gs =>
    let (start, run) := longestRun 0 (0, 0) gs
    if 1 < run then groupsText (gs.take start) ++ "::" ++ groupsText (gs.drop (start + run))
    else groupsText gs

end Address

end DeviceIdentity.Net
