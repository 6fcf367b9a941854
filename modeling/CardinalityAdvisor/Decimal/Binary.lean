/-!
# Doubles as binary fractions

A finite double is a whole number of units, where the unit is a power of two. Texts of doubles are
computed from this number and not from approximations.

## Main definitions

* `Binary`: a sign, a whole number and the exponent of the unit
* `Binary.ofFloat?`: the parts of a finite double
* `truncate?`, `roundAway?`: a double cut off or rounded away from zero to a whole number
* `Fraction`: the value as a quotient of natural numbers, in quarters of a unit
* `magnitude`: the position of the decimal point of a quotient
-/

namespace CardinalityAdvisor.Decimal

/-- The number `± mantissa · 2 ^ exponent`. -/
structure Binary where
  negative : Bool
  mantissa : Nat
  exponent : Int
  deriving DecidableEq, Repr

/-- The parts of a finite double; nothing for the infinities and for NaN. -/
def Binary.ofFloat? (x : Float) : Option Binary :=
  let bits : Nat := x.toBits.toNat
  let field : Nat := bits / Nat.pow 2 52 % Nat.pow 2 11
  let rest : Nat := bits % Nat.pow 2 52
  let negative := decide (Nat.pow 2 63 ≤ bits)
  if field = 2047 then none
  else if field = 0 then some ⟨negative, rest, -1074⟩
  else some ⟨negative, Nat.pow 2 52 + rest, (field : Int) - 1075⟩

/-- A double cut off to a whole number; nothing for the infinities and for NaN. -/
def truncate? (x : Float) : Option Int :=
  (Binary.ofFloat? x).map fun b =>
    let whole : Nat := b.mantissa * Nat.pow 2 b.exponent.toNat / Nat.pow 2 (-b.exponent).toNat
    if b.negative then -(whole : Int) else whole

/-- A double rounded away from zero to a whole number; nothing for the infinities and for NaN. -/
def roundAway? (x : Float) : Option Int :=
  (Binary.ofFloat? x).map fun b =>
    let unit : Nat := Nat.pow 2 (-b.exponent).toNat
    let whole : Nat := (b.mantissa * Nat.pow 2 b.exponent.toNat + unit - 1) / unit
    if b.negative then -(whole : Int) else whole

/-- A magnitude as a quotient together with the interval of the numbers that round to it. The
three numerators share the denominator; the ends belong to the interval if `closed` holds. -/
structure Fraction where
  low : Nat
  value : Nat
  high : Nat
  denominator : Nat
  closed : Bool
  deriving DecidableEq, Repr

/-- A double and the numbers that round to it, in quarters of its unit. Below a power of two the
doubles lie twice as close, and a tie goes to the even mantissa. -/
def Binary.fraction (b : Binary) : Fraction :=
  let below := if b.mantissa = Nat.pow 2 52 ∧ b.exponent ≠ -1074 then 1 else 2
  let up := (b.exponent - 2).toNat
  let down := (2 - b.exponent).toNat
  { low := (4 * b.mantissa - below) * Nat.pow 2 up
    value := 4 * b.mantissa * Nat.pow 2 up
    high := (4 * b.mantissa + 2) * Nat.pow 2 up
    denominator := Nat.pow 2 down
    closed := b.mantissa % 2 = 0 }

/-- Whether `numerator / denominator < 10 ^ k`. -/
def belowPower (numerator denominator : Nat) (k : Int) : Bool :=
  numerator * Nat.pow 10 (-k).toNat < denominator * Nat.pow 10 k.toNat

/-- The first of the next `fuel` exponents from `k` on whose power of ten exceeds the quotient. -/
def magnitudeFrom (numerator denominator : Nat) : (fuel : Nat) → (k : Int) → Int
  | 0, k => k
  | fuel + 1, k =>
    if belowPower numerator denominator k then k
    else magnitudeFrom numerator denominator fuel (k + 1)

/-- The least `k` with `numerator / denominator < 10 ^ k`. The lengths of the two numbers in bits
leave three candidates. -/
def magnitude (numerator denominator : Nat) : Int :=
  let bits : Int := (numerator.log2 : Int) - denominator.log2 - 1
  magnitudeFrom numerator denominator 4 (Int.fdiv (bits * 30103) 100000)

end CardinalityAdvisor.Decimal
