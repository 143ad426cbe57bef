import PlantGrammar.Random.Source

/-!
# Scripted sources

A source with given first words, continued by a linear congruential sequence, and a source that
counts its draws.
-/

namespace PlantGrammar

/-- Words that are given out in order; once they are used up, the terms of the sequence that `seed`
starts follow. -/
structure Scripted where
  words : List UInt32
  seed : UInt32

/-- The term of the linear congruential sequence after `x`. -/
def Scripted.successor (x : UInt32) : UInt32 := x * 1664525 + 1013904223

instance : RandomSource Scripted where
  next
    | ⟨w :: ws, x⟩ => (w, ⟨ws, x⟩)
    | ⟨[], x⟩ => (Scripted.successor x, ⟨[], Scripted.successor x⟩)

/-- A source together with the number of words drawn from it. -/
structure Counted (σ : Type) where
  source : σ
  drawn : Nat

instance {σ : Type} [RandomSource σ] : RandomSource (Counted σ) where
  next s :=
    let (x, rest) := RandomSource.next s.source
    (x, ⟨rest, s.drawn + 1⟩)

end PlantGrammar
