import PlantGrammar.Numeral.Shortest

/-!
# Numerals with fixed places

The exact value of a binary number, rounded to a number of decimal places; a half goes to the even
neighbour. The sign is kept also when nothing but zeros is left.
-/

namespace PlantGrammar.Numeral

/-- The quotient rounded to the nearest natural number, a half to the even neighbour. -/
def roundDiv (num den : Nat) : Nat :=
  let q := num / den
  let r := num % den
  if 2 * r < den ∨ 2 * r = den ∧ q % 2 = 0 then q else q + 1

/-- The numeral of a binary32 number with the given number of places, at least one. -/
def fixed (places : Nat) (x : Float32) : String :=
  match Binary.ofFloat32 x with
  | .nan => "NaN"
  | .infinite n => sign n ++ "inf"
  | .finite n m q =>
    let num := m * Nat.pow 2 q.toNat * Nat.pow 10 places
    sign n ++ positional (roundDiv num (Nat.pow 2 (-q).toNat)) (-places)

end PlantGrammar.Numeral
