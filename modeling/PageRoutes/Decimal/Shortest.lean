import PageRoutes.Decimal.Double

/-!
# The shortest decimal of a number

The decimals that read back as a given number are those of an interval around it: from halfway to
the number below to halfway to the number above, the two ends included iff the number's `m` is
even. `shortest` takes the coarsest grid of powers of ten that has a point in the interval, hence
the fewest digits, and of the points there the one nearest to the number.

`NumberText` holds the choices of the written form.
-/

namespace PageRoutes

/-- A positive decimal `digits · 10 ^ exponent`. -/
structure Decimal where
  digits : Nat
  exponent : Int
deriving DecidableEq, Repr

namespace Decimal

/-- An interval of decimals, as multiples of `2 ^ power`: its two ends, and whether they belong
to it; `value` is the number that all of its points read back as. -/
structure Interval where
  low : Nat
  value : Nat
  high : Nat
  power : Int
  closed : Bool
deriving Repr

/-- The interval of decimals that read back as the positive number `m · 2 ^ q`. Below the least
`m` of a power of two the numbers lie twice as close. -/
def Interval.around (m : Nat) (q : Int) : Interval where
  low := if m = Double.leadingBit ∧ -1074 < q then 4 * m - 1 else 4 * m - 2
  value := 4 * m
  high := 4 * m + 2
  power := q - 2
  closed := m % 2 = 0

/-- The factors `a` and `b` with which `x · 2 ^ power` and `d · 10 ^ exponent` compare as `x * a`
and `d * b`. -/
def commonScale (power exponent : Int) : Nat × Nat :=
  (Nat.pow 10 (-exponent).toNat <<< power.toNat, Nat.pow 10 exponent.toNat <<< (-power).toNat)

/-- The point of the grid of multiples of `10 ^ exponent` that lies in the interval, the nearest
to its value if there are several and the even one of two equally near. -/
def Interval.onGrid? (i : Interval) (exponent : Int) : Option Decimal :=
  let (a, b) := commonScale i.power exponent
  let inside (d : Nat) : Bool :=
    if i.closed then i.low * a ≤ d * b && d * b ≤ i.high * a
    else i.low * a < d * b && d * b < i.high * a
  let below := i.value * a / b
  let nearest := if b < 2 * (i.value * a % b) ∨ (2 * (i.value * a % b) = b ∧ below % 2 = 1)
    then below + 1 else below
  let other := if nearest = below then below + 1 else below
  if inside nearest then some ⟨nearest, exponent⟩
  else if inside other then some ⟨other, exponent⟩
  else none

/-- The point on the coarsest of `steps` grids, starting with the multiples of `10 ^ exponent`. -/
def Interval.coarsest (i : Interval) : (steps : Nat) → (exponent : Int) → Decimal
  | 0, exponent => ⟨0, exponent⟩
  | steps + 1, exponent =>
    match i.onGrid? exponent with
    | some decimal => decimal
    | none => i.coarsest steps (exponent - 1)

/-- The shortest decimal that reads back as the positive number `m · 2 ^ q`. -/
def shortest (m : Nat) (q : Int) : Decimal :=
  (Interval.around m q).coarsest 700 309

end Decimal

/-- The choices of a number's written form: the first power of ten, from above and from below,
that is written with an exponent. -/
structure NumberText where
  large : Int
  small : Int
deriving Repr

namespace NumberText

/-- A positive decimal in its written form. -/
def write (t : NumberText) (x : Decimal) : List Char :=
  let digits := Nat.toDigits 10 x.digits
  let point : Int := digits.length + x.exponent
  if 0 < point ∧ point ≤ t.large then
    if 0 ≤ x.exponent then digits ++ List.replicate x.exponent.toNat '0' ++ ['.', '0']
    else digits.take point.toNat ++ '.' :: digits.drop point.toNat
  else if t.small < point ∧ point ≤ 0 then
    '0' :: '.' :: List.replicate (-point).toNat '0' ++ digits
  else
    let fraction := if digits.length ≤ 1 then [] else '.' :: digits.drop 1
    digits.take 1 ++ fraction ++ 'e' :: (toString (point - 1)).toList

/-- A finite number in its written form. -/
def ofDouble (t : NumberText) (x : Double) : List Char :=
  let (m, q) := x.decode
  let text := if m = 0 then ['0', '.', '0'] else t.write (Decimal.shortest m q)
  if x.isNegative then '-' :: text else text

end NumberText

end PageRoutes
