/-!
# Double precision numbers

A finite number of double precision is `m · 2 ^ q` with `m < 2 ^ 53` and `-1074 ≤ q ≤ 971`; a number
is kept as its bits. `Double.nearest` finds the number nearest to a fraction, with ties going to
the even `m`, and `Double.decode` goes back from bits to `m` and `q`.
-/

namespace PageRoutes

/-- The bits of a number of double precision. -/
structure Double where
  bits : UInt64
deriving DecidableEq, Repr

namespace Double

/-- Whether the sign bit is set. -/
def isNegative (x : Double) : Bool :=
  x.bits >>> 63 == 1

/-- The exponent field. -/
def exponentField (x : Double) : Nat :=
  ((x.bits >>> 52) &&& 0x7FF).toNat

/-- The fraction field. -/
def fractionField (x : Double) : Nat :=
  (x.bits &&& 0xFFFFFFFFFFFFF).toNat

/-- Whether the bits stand for a number, and not for an infinity or for none. -/
def isFinite (x : Double) : Bool :=
  x.exponentField != 0x7FF

/-- The least `m` of a number that is not close to zero: `2 ^ 52`. -/
def leadingBit : Nat := 0x10000000000000

/-- The `m` and `q` with which the absolute value of a finite number is `m · 2 ^ q`. -/
def decode (x : Double) : Nat × Int :=
  if x.exponentField = 0 then (x.fractionField, -1074)
  else (leadingBit + x.fractionField, (x.exponentField : Int) - 1075)

/-- The same number with the sign bit set. -/
def negate (x : Double) : Double :=
  ⟨x.bits ||| 0x8000000000000000⟩

/-- The infinity above all numbers. -/
def infinity : Double := ⟨0x7FF0000000000000⟩

/-- What is no number and no infinity. -/
def notANumber : Double := ⟨0x7FF8000000000000⟩

/-- The integer nearest to a quotient, the even one of two that are equally near. -/
def roundDiv (num den : Nat) : Nat :=
  let floor := num / den
  let twice := 2 * (num % den)
  if twice < den then floor
  else if den < twice then floor + 1
  else floor + floor % 2

/-- A quotient times two to the power `e`, as a numerator and a denominator. -/
def scale (num den : Nat) (e : Int) : Nat × Nat :=
  match e with
  | .ofNat n => (num <<< n, den)
  | .negSucc n => (num, den <<< (n + 1))

/-- The number nearest to the quotient of `num` and a positive `den`; the infinity from halfway
beyond the greatest number on. -/
def nearest (num den : Nat) : Double :=
  if num = 0 then ⟨0⟩
  else
    let guess : Int := (Nat.log2 num : Int) - Nat.log2 den - 52
    let (n, d) := scale num den (-guess)
    let q := max (-1074) (if n < leadingBit * d then guess - 1 else guess)
    let (n, d) := scale num den (-q)
    let m := roundDiv n d
    let (m, q) := if m = 2 * leadingBit then (leadingBit, q + 1) else (m, q)
    if 971 < q then infinity
    else if m < leadingBit then ⟨m.toUInt64⟩
    else ⟨((q + 1075).toNat * leadingBit + (m - leadingBit)).toUInt64⟩

end Double

end PageRoutes
