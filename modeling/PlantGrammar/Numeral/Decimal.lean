import PlantGrammar.Numeral.Binary

/-!
# Decimal numbers

Decimal numerals and their binary32 values. A numeral is read with bounded effort and four
roundings, so the value is close to the numeral but not always the binary32 number nearest to it:

* its digits make a significand of 64 bits, beyond which digits only count by their place;
* the significand is rounded to binary64;
* it is multiplied or divided by a power of ten, itself rounded to binary64;
* the result is rounded to binary64 and from there to binary32.

A numeral that becomes infinite in binary64 has no value.
-/

namespace PlantGrammar.Numeral

/-- The number `significand * 10 ^ exponent`, or its opposite. -/
structure Decimal where
  negative : Bool
  significand : Nat
  exponent : Int
  deriving DecidableEq, Repr

namespace Decimal

/-! ### Digits -/

/-- The greatest significand. -/
def maxSignificand : Nat := 0xFFFFFFFFFFFFFFFF

/-- The value of a decimal digit. -/
def digitValue (c : Char) : Nat := c.toNat - '0'.toNat

/-- Appends digits to a significand as long as it stays within its bounds, and gives the digits that
are left over from the first that does not fit. -/
def absorb (significand : Nat) : List Char → Nat × List Char
  | [] => (significand, [])
  | d :: ds =>
    let next := 10 * significand + digitValue d
    if next ≤ maxSignificand then absorb next ds else (significand, d :: ds)

/-- The numeral with the given digits before and after the point. Whole digits that do not fit into
the significand raise the exponent; digits after the point that do not fit are dropped. -/
def ofDigits (negative : Bool) (whole fraction : List Char) (exponent : Int) : Decimal :=
  let (n, uncounted) := absorb 0 whole
  let (significand, dropped) := absorb n fraction
  let places := fraction.length - dropped.length
  ⟨negative, significand, exponent + uncounted.length - places⟩

/-! ### Values -/

/-- The binary64 number nearest to a power of ten. -/
def powerOfTen (n : Nat) : Float := Float.ofScientific 1 false n

/-- Multiplies a significand by a power of ten. Powers beyond the range of binary64 are divided by
in two steps; the quotient of a significand is zero beyond the second. -/
def scale (x : Float) (exponent : Int) : Float :=
  if exponent < -616 then 0
  else if exponent < -308 then x / powerOfTen 308 / powerOfTen (-(exponent + 308)).toNat
  else if exponent < 0 then x / powerOfTen (-exponent).toNat
  else if exponent ≤ 308 then x * powerOfTen exponent.toNat
  else if x == 0 then 0
  else Float.ofBits 0x7ff0000000000000

/-- The binary32 number nearest to `mantissa * 2 ^ exponent`. -/
def roundMagnitude (mantissa : Nat) (exponent : Int) : Float32 :=
  if exponent < 0 then
    Float32.ofScientific (mantissa * Nat.pow 5 (-exponent).toNat) true (-exponent).toNat
  else
    Float32.ofScientific (mantissa * Nat.pow 2 exponent.toNat) false 0

/-- The value of the numeral. -/
def toFloat32? (d : Decimal) : Option Float32 :=
  match Binary.ofFloat (scale (Float.ofNat d.significand) d.exponent) with
  | .finite _ m q =>
    let x := roundMagnitude m q
    some (if d.negative then -x else x)
  | _ => none

end Decimal

end PlantGrammar.Numeral
