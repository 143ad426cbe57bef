/-!
# Binary numbers

The exact value of a binary floating-point number: a sign and a natural number times a power of two.
-/

namespace PlantGrammar.Numeral

/-- The value of a binary floating-point number. -/
inductive Binary where
  | nan
  | infinite (negative : Bool)
  /-- The value `mantissa * 2 ^ exponent`, or its opposite. -/
  | finite (negative : Bool) (mantissa : Nat) (exponent : Int)
  deriving DecidableEq, Repr

namespace Binary

/-- Reads the bits of a number whose fraction has `fractionBits` bits and whose exponent field, all
of whose bits are set in `infinities`, is counted from `bias`. -/
def ofFields (fractionBits infinities : Nat) (bias : Int) (bits : Nat) : Binary :=
  let fraction := bits % Nat.pow 2 fractionBits
  let field := bits / Nat.pow 2 fractionBits % (infinities + 1)
  let negative := decide (infinities < bits / Nat.pow 2 fractionBits)
  if field = infinities then
    if fraction = 0 then .infinite negative else .nan
  else if field = 0 then
    .finite negative fraction (1 - bias)
  else
    .finite negative (Nat.pow 2 fractionBits + fraction) (field - bias)

/-- The value of a binary32 number. -/
def ofFloat32 (x : Float32) : Binary := ofFields 23 255 150 x.toBits.toNat

/-- The value of a binary64 number. -/
def ofFloat (x : Float) : Binary := ofFields 52 2047 1075 x.toBits.toNat

end Binary

end PlantGrammar.Numeral
