import CardinalityAdvisor.Decimal.Binary

/-!
# The shortest decimal text of a double

Inside texts a double is written with the fewest decimal digits that still read back as the same
double, and among these the digits nearest to it. Numbers from `0.0001` up to `10 ^ 16` are
written with a decimal point, all others with an exponent of at least two digits.

## Main definitions

* `nearestOnGrid f n k`: the nearest number of `n` digits that reads back, if there is one
* `shortestDigits`: the digits and the position of the decimal point
* `PointRange`: the decisions of the written form
* `shortest`: the text
-/

namespace CardinalityAdvisor.Decimal

/-- The decimal digits of a number, most significant first. -/
def digitsOf (n : Nat) : List Char := Nat.toDigits 10 n

/-- The multiple of `10 ^ (k - n)` nearest to the value among those that read back as the value;
only the two neighbours of the value need to be tried, and a tie goes to the even one. -/
def nearestOnGrid (f : Fraction) (n : Nat) (k : Int) : Option Nat :=
  let scale := Nat.pow 10 (n - k).toNat
  let unit := f.denominator * Nat.pow 10 (k - n).toNat
  let reads (d : Nat) : Bool :=
    if f.closed then f.low * scale ≤ d * unit && d * unit ≤ f.high * scale
    else f.low * scale < d * unit && d * unit < f.high * scale
  let d := f.value * scale / unit
  let rest := f.value * scale % unit
  let upper := 2 * rest > unit || (2 * rest == unit && d % 2 == 1)
  match reads d, reads (d + 1) with
  | true, true => some (if upper then d + 1 else d)
  | true, false => some d
  | false, true => some (d + 1)
  | false, false => none

/-- The first length from `n` on, of the next `fuel` lengths, for which some number reads back,
with that number. -/
def shortestFrom (f : Fraction) (k : Int) : (fuel : Nat) → (n : Nat) → Nat × Nat
  | 0, n => (n, f.value / f.denominator)
  | fuel + 1, n =>
    match nearestOnGrid f n k with
    | some d => (n, d)
    | none => shortestFrom f k fuel (n + 1)

/-- A list of digits without the zeros at its end. -/
def dropTrailingZeros (ds : List Char) : List Char :=
  (ds.reverse.dropWhile (· == '0')).reverse

/-- The shortest digits of a positive number and the position of the decimal point: digits
`d₁ d₂ …` at position `p` are the number `0.d₁d₂… · 10 ^ p`. Seventeen digits always suffice. -/
def shortestDigits (b : Binary) : List Char × Int :=
  let f := b.fraction
  let k := magnitude f.value f.denominator
  let (n, d) := shortestFrom f k 17 1
  let ds := digitsOf d
  (dropTrailingZeros ds, k - n + ds.length)

/-- The exponent of a number in scientific notation: a sign and at least two digits. -/
def exponentText (e : Int) : String :=
  let ds := digitsOf e.natAbs
  (if e < 0 then "e-" else "e+") ++ String.ofList (if ds.length < 2 then '0' :: ds else ds)

/-- Where the written form of a number changes from a decimal point to an exponent. -/
structure PointRange where
  /-- The least position of the decimal point of a number written without an exponent. -/
  leastPoint : Int
  /-- The greatest position of the decimal point of a number written without an exponent. -/
  greatestPoint : Int

/-- Numbers from `0.0001` up to `10 ^ 16` are written without an exponent. -/
def plainRange : PointRange := ⟨-3, 16⟩

/-- The text of digits with a decimal point at a position. Whole numbers end in `.0`, unless they
have an exponent. -/
def PointRange.write (n : PointRange) (digits : List Char) (point : Int) : String :=
  let zeros (count : Int) : List Char := List.replicate count.toNat '0'
  if n.leastPoint ≤ point ∧ point ≤ n.greatestPoint then
    if point ≤ 0 then String.ofList ('0' :: '.' :: zeros (-point) ++ digits)
    else
      let whole := digits.take point.toNat ++ zeros (point - digits.length)
      let part := digits.drop point.toNat
      String.ofList (whole ++ '.' :: if part.isEmpty then ['0'] else part)
  else
    let rest := digits.drop 1
    String.ofList (digits.take 1 ++ if rest.isEmpty then [] else '.' :: rest) ++
      exponentText (point - 1)

/-- The texts of the numbers that are not finite. -/
def specialText (x : Float) : String :=
  if x.isNaN then "nan" else if x < 0 then "-inf" else "inf"

/-- The shortest text of a double that reads back as the double. -/
def shortest (x : Float) : String :=
  match Binary.ofFloat? x with
  | none => specialText x
  | some b =>
    let text :=
      if b.mantissa = 0 then "0.0"
      else
        let (digits, point) := shortestDigits b
        plainRange.write digits point
    if b.negative then "-" ++ text else text

example : shortest 0.1 = "0.1" ∧ shortest 1e16 = "1e+16" ∧ shortest 100.0 = "100.0" := by
  decide +kernel

example : shortest 5e-324 = "5e-324" ∧ shortest (-0.0) = "-0.0" := by decide +kernel

end CardinalityAdvisor.Decimal
