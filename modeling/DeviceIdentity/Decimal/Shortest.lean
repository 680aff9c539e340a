import DeviceIdentity.Decimal.Binary64

/-!
# Shortest decimals

The decimal with the fewest digits that rounds to a given double, and among those the nearest one.
Which digits to write is decided here, in exact arithmetic; how they are laid out is one record,
`Layout`.
-/
namespace DeviceIdentity.Decimal

/-- The decimal `digits * 10 ^ exponent`. -/
structure Scientific where
  digits : Nat
  exponent : Int
deriving DecidableEq, Repr, Inhabited

/-- The number of decimal digits of a positive number. -/
def digitCount (n : Nat) : Nat := (Nat.toDigits 10 n).length

/-- The reals that round to a double, as a multiple of the common fraction `unit / 4`: the value
itself, and the two ends. The ends belong to the interval iff the significand is even. -/
structure Interval where
  low : Nat
  value : Nat
  high : Nat
  closed : Bool
deriving Repr

namespace Interval

/-- The interval of `significand * 2 ^ exponent`, in units of `2 ^ (exponent - 2)`. Below a power of
two the neighbour is only half as far away. -/
def ofBinary64 (x : Binary64) : Interval :=
  let m := x.significand
  let boundary := m = Nat.pow 2 52 ∧ -1074 < x.exponent
  ⟨4 * m - (if boundary then 1 else 2), 4 * m, 4 * m + 2, m % 2 = 0⟩

/-- Whether `n / d` units lie in the interval. -/
def contains (i : Interval) (n d : Nat) : Bool :=
  if i.closed then i.low * d ≤ n && n ≤ i.high * d else i.low * d < n && n < i.high * d

end Interval

/-- `a * 10 ^ k / 2 ^ e` as a quotient. -/
private def ratio (a : Nat) (k e : Int) : Nat × Nat :=
  let (n, d) := if 0 ≤ k then (a * Nat.pow 10 k.toNat, 1) else (a, Nat.pow 10 (-k).toNat)
  if 0 ≤ e then (n, d * Nat.pow 2 e.toNat) else (n * Nat.pow 2 (-e).toNat, d)

/-- The two neighbours of the value on the grid of multiples of `10 ^ k`, those that read back, the
nearer one first; a tie goes to the even neighbour. `e` is the exponent of the interval's unit. -/
def onGrid (i : Interval) (e k : Int) : Option Nat :=
  let (n, d) :=
    if 0 ≤ e then (i.value * Nat.pow 2 e.toNat, 1) else (i.value, Nat.pow 2 (-e).toNat)
  let (n, d) := if 0 ≤ k then (n, d * Nat.pow 10 k.toNat) else (n * Nat.pow 10 (-k).toNat, d)
  -- `n / d` is now the value in units of the grid.
  let below := n / d
  let rest := n % d
  let reads (a : Nat) : Bool :=
    let (p, q) := ratio a k e
    a != 0 && i.contains p q
  let nearest :=
    if 2 * rest < d then below
    else if d < 2 * rest then below + 1
    else below + below % 2
  let other := if nearest = below then below + 1 else below
  if reads nearest then some nearest else if reads other then some other else none

/-- The first grid with a hit, from one digit on. Seventeen digits always suffice. -/
private def search (i : Interval) (e top : Int) : Nat → Nat → Scientific
  | 0, _ => ⟨0, 0⟩
  | fuel + 1, n =>
    let k := top - n
    match onGrid i e k with
    | some a => ⟨a, k⟩
    | none => search i e top fuel (n + 1)

/-- Trailing zeros moved into the exponent. -/
private def stripZeros : Nat → Scientific → Scientific
  | 0, s => s
  | fuel + 1, s =>
    if s.digits ≠ 0 ∧ s.digits % 10 = 0 then stripZeros fuel ⟨s.digits / 10, s.exponent + 1⟩ else s

/-- The shortest decimal that reads back as the magnitude of `x`. -/
def shortest (x : Binary64) : Scientific :=
  if x.isZero then ⟨0, 0⟩
  else
    let i := Interval.ofBinary64 x
    let e := x.exponent - 2
    -- the number of digits before the decimal point of the value, negative below one tenth
    let (n, d) :=
      if 0 ≤ e then (i.value * Nat.pow 2 e.toNat, 1) else (i.value, Nat.pow 2 (-e).toNat)
    let top : Int :=
      if d ≤ n then digitCount (n / d) else 1 - (digitCount (d / n) : Int)
    stripZeros 20 (search i e (top + 1) 20 1)

/-- How the digits of a number are written. -/
structure Layout where
  /-- The least decimal exponent written without `e`. -/
  leastPositional : Int
  /-- The least decimal exponent too large to be written without `e`. -/
  leastLarge : Int

/-- The value as text: digits with a point, or one digit, a point, the others and an exponent with
its sign. A whole number written without exponent keeps one zero after its point. -/
def Layout.write (layout : Layout) (x : Binary64) : List Char :=
  let sign := if x.negative then ['-'] else []
  if x.isZero then sign ++ ['0', '.', '0']
  else
    let s := shortest x
    let ds := Nat.toDigits 10 s.digits
    let exponent : Int := s.exponent + ds.length - 1
    if exponent < layout.leastPositional ∨ layout.leastLarge ≤ exponent then
      let fraction := match ds.drop 1 with
        | [] => []
        | rest => '.' :: rest
      sign ++ ds.take 1 ++ fraction ++ ['e', if exponent < 0 then '-' else '+'] ++
        Nat.toDigits 10 exponent.natAbs
    else if exponent < 0 then
      sign ++ ['0', '.'] ++ List.replicate (exponent.natAbs - 1) '0' ++ ds
    else
      let whole := exponent.toNat + 1
      if ds.length ≤ whole then
        sign ++ ds ++ List.replicate (whole - ds.length) '0' ++ ['.', '0']
      else
        sign ++ ds.take whole ++ ['.'] ++ ds.drop whole

end DeviceIdentity.Decimal
