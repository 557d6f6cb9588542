/-!
# Shortest decimals of binary fractions

A finite number of the 64-bit format is `m * 2 ^ e`. Every real number that is nearer to it than
to its neighbours is read back as it; the ends of that interval belong to it when `m` is even.
`shortest` finds the fewest digits of a decimal in the interval, and of several such decimals the
nearest.

For a number of digits the candidates are the two neighbours of the value on the grid of decimals
with that many digits: if any point of the grid lies in the interval, one of these does. All
arithmetic is exact, on natural numbers.
-/

namespace StudyHall.Decimal

/-- The interval of the reals that are read as one number, over a common denominator. -/
structure Interval where
  low : Nat
  value : Nat
  high : Nat
  denominator : Nat
  /-- Whether the ends belong to it. -/
  closed : Bool

/-- The interval of `m * 2 ^ e`; the gap below is half as wide when `m` is the least of its
power of two. -/
def Interval.of (m : Nat) (e : Int) : Interval :=
  let narrow := m == Nat.pow 2 52 && -1074 < e
  let up := Nat.pow 2 e.toNat
  let below := if narrow then 1 else 2
  ⟨(4 * m - below) * up, 4 * m * up, (4 * m + 2) * up, 4 * Nat.pow 2 (-e).toNat, m % 2 == 0⟩

/-- Whether `n / d` lies in the interval. -/
def Interval.holds (i : Interval) (n d : Nat) : Bool :=
  let x := n * i.denominator
  if i.closed then i.low * d ≤ x && x ≤ i.high * d else i.low * d < x && x < i.high * d

/-- A decimal: `digits * 10 ^ exponent`. -/
structure Expansion where
  digits : Nat
  exponent : Int
  deriving DecidableEq, Repr

/-- The exponent `p` with `10 ^ (p - 1) ≤ n / d < 10 ^ p`, searched upwards from a bound. -/
def magnitudeFrom (n d : Nat) : Nat → Int → Int
  | 0, p => p
  | fuel + 1, p =>
      if n * Nat.pow 10 (-p).toNat < d * Nat.pow 10 p.toNat then p
      else magnitudeFrom n d fuel (p + 1)

/-- The exponent `p` with `10 ^ (p - 1) ≤ n / d < 10 ^ p`. -/
def magnitude (n d : Nat) : Int :=
  let estimate : Int := ((Nat.log2 n : Int) - (Nat.log2 d : Int)) * 30103 / 100000 - 2
  magnitudeFrom n d 8 estimate

/-- The nearest decimal of the interval whose last place is `10 ^ exponent`. -/
def Interval.onGrid? (i : Interval) (exponent : Int) : Option Expansion :=
  let up := Nat.pow 10 exponent.toNat
  let down := Nat.pow 10 (-exponent).toNat
  let n := i.value * down
  let d := i.denominator * up
  let f := n / d
  let lower := 0 < f && i.holds (f * up) down
  let upper := i.holds ((f + 1) * up) down
  let nearerBelow := 2 * (n - f * d) < d || (2 * (n - f * d) == d && f % 2 == 0)
  if lower && (nearerBelow || !upper) then some ⟨f, exponent⟩
  else if upper then some ⟨f + 1, exponent⟩
  else none

/-- The first number of digits, from `count` on, for which a decimal lies in the interval. -/
def Interval.search (i : Interval) (top : Int) : Nat → Nat → Expansion
  | 0, count => ⟨0, count⟩
  | fuel + 1, count =>
      match i.onGrid? (top - count) with
      | some r => r
      | none => i.search top fuel (count + 1)

/-- A decimal without zeros at its end. -/
def Expansion.trimmed (r : Expansion) : Nat → Expansion
  | 0 => r
  | fuel + 1 =>
      if r.digits % 10 = 0 ∧ r.digits ≠ 0 then
        Expansion.trimmed ⟨r.digits / 10, r.exponent + 1⟩ fuel
      else r

/-- The shortest decimal that is read as `m * 2 ^ e`, the nearest of several. -/
def shortest (m : Nat) (e : Int) : Expansion :=
  let i := Interval.of m e
  (i.search (magnitude i.value i.denominator) 17 1).trimmed 20

end StudyHall.Decimal
