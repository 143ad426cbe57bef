import PlantGrammar.Numeral.Binary

/-!
# Shortest numerals

The numeral of a binary32 number with the fewest digits that read back as the same number, and of
those the one nearest to it; of two that are equally near, the greater. It is written without an
exponent.

A number `m * 2 ^ q` is what every real between `(2m - 1) * 2 ^ (q - 1)` and `(2m + 1) * 2 ^ (q - 1)`
rounds to, where the lower bound is closer if `m` is the least mantissa; the bounds belong to it if
`m` is even. All comparisons are exact, in units of `2 ^ (q - 2)`.
-/

namespace PlantGrammar.Numeral

/-- The reals that round to a number, and the number, in units of `2 ^ unit`. -/
structure RoundingInterval where
  low : Nat
  value : Nat
  high : Nat
  /-- Whether the bounds belong to the interval. -/
  closed : Bool
  unit : Int

namespace RoundingInterval

/-- The interval of the binary32 number `m * 2 ^ q`. -/
def ofBinary32 (m : Nat) (q : Int) : RoundingInterval where
  low := if m = 0x800000 ∧ -149 < q then 4 * m - 1 else 4 * m - 2
  value := 4 * m
  high := 4 * m + 2
  closed := m % 2 = 0
  unit := q - 2

/-- The multiple of `10 ^ grid` in the interval that is nearest to the value, divided by
`10 ^ grid`. Only the two neighbours of the value can be it. -/
def nearest? (i : RoundingInterval) (grid : Int) : Option Nat :=
  let step := Nat.pow 10 grid.toNat * Nat.pow 2 (-i.unit).toNat
  let one := Nat.pow 2 i.unit.toNat * Nat.pow 10 (-grid).toNat
  let inside (c : Nat) : Bool :=
    i.low * one < c * step && c * step < i.high * one ||
      i.closed && (c * step = i.low * one || c * step = i.high * one)
  let below := i.value * one / step
  let above := below + 1
  if inside above && (!inside below || above * step - i.value * one ≤ i.value * one - below * step)
  then some above
  else if inside below then some below
  else none

/-- The decimal exponents from the coarsest grid that can hold a binary32 number to one that is fine
enough for all of them. -/
def grids : List Int := (List.range 90).map fun (i : Nat) => 39 - (i : Int)

/-- The shortest decimal in the interval, as digits and exponent. -/
def shortest (i : RoundingInterval) : Nat × Int :=
  (grids.findSome? fun g => (i.nearest? g).map fun c => (c, g)).getD (0, 0)

end RoundingInterval

/-- The numeral of `digits * 10 ^ exponent` without an exponent. -/
def positional (digits : Nat) (exponent : Int) : String :=
  let ds := Nat.toDigits 10 digits
  if 0 ≤ exponent then
    String.ofList (ds ++ List.replicate exponent.toNat '0')
  else
    let places := (-exponent).toNat
    let ds := List.replicate (places + 1 - ds.length) '0' ++ ds
    String.ofList (ds.take (ds.length - places) ++ '.' :: ds.drop (ds.length - places))

/-- A minus sign for negative numbers. -/
def sign (negative : Bool) : String := if negative then "-" else ""

/-- The shortest numeral of a binary32 number. -/
def shortest (x : Float32) : String :=
  match Binary.ofFloat32 x with
  | .nan => "NaN"
  | .infinite n => sign n ++ "inf"
  | .finite n m q =>
    if m = 0 then sign n ++ "0"
    else
      let (digits, exponent) := (RoundingInterval.ofBinary32 m q).shortest
      sign n ++ positional digits exponent

end PlantGrammar.Numeral
