/-!
# The shortest decimal that reads back

A finite floating point value stands for every real number that rounds to it: an interval
around it that reaches halfway to each neighbour. Of all decimals in that interval the ones
with the fewest digits lie on the coarsest grid of multiples of a power of ten that meets
the interval at all, so the search tries the grids from coarse to fine and stops at the first
that does. Of two points on that grid the nearer is taken. Everything is exact arithmetic on
natural numbers.
-/

namespace Prebuild.Decimal

/-- A positive binary value `significand * 2 ^ exponent`. Where `narrow` holds, the neighbour
below is half as far away as the one above. -/
structure Binary where
  significand : Nat
  exponent : Int
  narrow : Bool

/-- The magnitude of a finite value, from its bits. -/
def Binary.ofBits (bits : UInt64) : Binary :=
  let biased := ((bits >>> 52) &&& 0x7FF).toNat
  let fraction := (bits &&& 0xFFFFFFFFFFFFF).toNat
  if biased = 0 then ⟨fraction, -1074, false⟩
  else ⟨0x10000000000000 + fraction, biased - 1075, fraction = 0 && biased ≠ 1⟩

/-- The decimal `digits * 10 ^ exponent`. -/
structure Dec where
  digits : Nat
  exponent : Int
deriving DecidableEq, Repr

/-- Which of two equally near decimals is taken. -/
inductive Tie where
  | toEven
  | up
deriving DecidableEq

/-- A value and the ends of its interval, as numerators over one denominator. -/
structure Interval where
  low : Nat
  value : Nat
  high : Nat
  denominator : Nat
  /-- whether the ends themselves round to the value -/
  closed : Bool

/-- The interval that rounds to a value. The ends do if its significand is even. -/
def Binary.interval (x : Binary) : Interval :=
  let up := Nat.pow 2 (x.exponent - 2).toNat
  { low := (4 * x.significand - if x.narrow then 1 else 2) * up
    value := 4 * x.significand * up
    high := (4 * x.significand + 2) * up
    denominator := Nat.pow 2 (2 - x.exponent).toNat
    closed := x.significand % 2 = 0 }

/-- Whether `numerator / denominator` lies in the interval. -/
def Interval.holds (i : Interval) (numerator : Nat) : Bool :=
  if i.closed then i.low ≤ numerator && numerator ≤ i.high
  else i.low < numerator && numerator < i.high

/-- The interval measured in units of `10 ^ p`. -/
def Interval.inUnits (i : Interval) (p : Int) : Interval :=
  let up := Nat.pow 10 (-p).toNat
  { i with
    low := i.low * up
    value := i.value * up
    high := i.high * up
    denominator := i.denominator * Nat.pow 10 p.toNat }

/-- The multiple of `10 ^ p` in the interval that is nearest to the value. -/
def Interval.onGrid (i : Interval) (tie : Tie) (p : Int) : Option Nat :=
  let j := i.inUnits p
  let below := j.value / j.denominator
  let above := below + 1
  match j.holds (below * j.denominator), j.holds (above * j.denominator) with
  | false, false => none
  | true, false => some below
  | false, true => some above
  | true, true =>
    match compare (2 * j.value) ((below + above) * j.denominator) with
    | .lt => some below
    | .gt => some above
    | .eq => some (if tie = .toEven ∧ below % 2 = 0 then below else above)

/-- Tries `steps` grids from `10 ^ p` downwards. -/
def Interval.search (i : Interval) (tie : Tie) : Nat → Int → Dec
  | 0, p => ⟨(i.inUnits p).value / (i.inUnits p).denominator, p⟩
  | steps + 1, p =>
    match i.onGrid tie p with
    | some digits => ⟨digits, p⟩
    | none => i.search tie steps (p - 1)

/-- The shortest decimal that reads back as a positive value. No value reaches `10 ^ 309`,
and every value has a multiple of `10 ^ (-330)` in its interval. -/
def Binary.shortest (x : Binary) (tie : Tie) : Dec :=
  x.interval.search tie 639 309

end Prebuild.Decimal
