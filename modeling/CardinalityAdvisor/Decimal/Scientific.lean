import CardinalityAdvisor.Decimal.Shortest

/-!
# Scientific notation with a fixed number of digits

Answers write a double with one digit before and a fixed number of digits after the decimal point,
followed by an exponent. The exact value is rounded to nearest, a tie to the even digit.

## Main definitions

* `roundQuotient`: a quotient rounded to the nearest whole number
* `scientific places x`: the text with `places` digits after the point

## Main results

* `roundQuotient_near`: rounding moves a quotient by at most one half
-/

namespace CardinalityAdvisor.Decimal

/-- A quotient rounded to the nearest whole number, a tie to the even one. -/
def roundQuotient (numerator denominator : Nat) : Nat :=
  let d := numerator / denominator
  let rest := numerator % denominator
  if 2 * rest > denominator ∨ (2 * rest = denominator ∧ d % 2 = 1) then d + 1 else d

/-- Rounding moves a quotient by at most one half. -/
theorem roundQuotient_near (numerator denominator : Nat) (h : 0 < denominator) :
    2 * numerator ≤ (2 * roundQuotient numerator denominator + 1) * denominator ∧
      2 * (roundQuotient numerator denominator * denominator) ≤ 2 * numerator + denominator := by
  have hdiv := Nat.div_add_mod numerator denominator
  have hlt := Nat.mod_lt numerator h
  rw [Nat.mul_comm] at hdiv
  unfold roundQuotient
  dsimp only
  split
  · rename_i hup
    simp only [Nat.add_mul, Nat.mul_add, Nat.mul_assoc]
    omega
  · rename_i hdown
    simp only [Nat.add_mul, Nat.mul_assoc]
    omega

/-- The digits and the position of the decimal point of a positive number rounded to `n` digits.
Rounding up to a power of ten moves the point by one. -/
def roundedDigits (b : Binary) (n : Nat) : List Char × Int :=
  let f := b.fraction
  let k := magnitude f.value f.denominator
  let d := roundQuotient (f.value * Nat.pow 10 (n - k).toNat)
    (f.denominator * Nat.pow 10 (k - n).toNat)
  if d < Nat.pow 10 n then (digitsOf d, k) else (digitsOf (d / 10), k + 1)

/-- A double in scientific notation with `places` digits after the decimal point. -/
def scientific (places : Nat) (x : Float) : String :=
  match Binary.ofFloat? x with
  | none => specialText x
  | some b =>
    let (digits, point) :=
      if b.mantissa = 0 then (List.replicate (places + 1) '0', 1)
      else roundedDigits b (places + 1)
    let text := String.ofList (digits.take 1 ++ '.' :: digits.drop 1) ++ exponentText (point - 1)
    if b.negative then "-" ++ text else text

example : scientific 12 0.5 = "5.000000000000e-01" := by decide +kernel

example : scientific 12 (-0.0) = "-0.000000000000e+00" := by decide +kernel

end CardinalityAdvisor.Decimal
