/-
This file writes doubles as decimals with a fixed number of places. The exact value
is rounded, and a half goes to the even neighbour.
-/

namespace ExportIndex.Decimal

/-- The quotient that is nearest, and the even one of two that are. -/
def roundDiv (numerator denominator : Nat) : Nat :=
  let quotient := numerator / denominator
  let twice := 2 * (numerator % denominator)
  if twice < denominator || (twice = denominator && quotient % 2 = 0) then quotient
  else quotient + 1

/-- The value of a finite double without its sign, as a fraction. -/
def magnitude (bits : UInt64) : Nat × Nat :=
  let implicit := Nat.pow 2 52
  let exponent := bits.toNat / implicit % 2048
  let fraction := bits.toNat % implicit
  if exponent = 0 then (fraction, Nat.pow 2 1074)
  else
    let mantissa := fraction + implicit
    if 1075 ≤ exponent then (mantissa * Nat.pow 2 (exponent - 1075), 1)
    else (mantissa, Nat.pow 2 (1075 - exponent))

/-- Digits with a point before the last `places` of them. -/
def placedDigits (places value : Nat) : String :=
  let unit := Nat.pow 10 places
  let fraction := (Nat.toDigits 10 (value % unit)).leftpad places '0'
  toString (value / unit) ++
    if places = 0 then "" else "." ++ String.ofList fraction

/-- The text of a finite double. -/
def fixed (places : Nat) (value : Float) : String :=
  let (numerator, denominator) := magnitude value.toBits
  let sign := if Nat.pow 2 63 ≤ value.toBits.toNat then "-" else ""
  sign ++ placedDigits places (roundDiv (numerator * Nat.pow 10 places) denominator)

end ExportIndex.Decimal
