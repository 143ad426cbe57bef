/-!
# Random sources

Growth draws 32-bit words from a source. Nothing else is asked of it, so every result is a function
of the words drawn: `RandomSource.word` numbers them, `RandomSource.after` is what is left of a
source when some have been drawn.
-/

namespace PlantGrammar

/-- A supply of 32-bit words. -/
class RandomSource (σ : Type) where
  /-- The next word, and the source without it. -/
  next : σ → UInt32 × σ

namespace RandomSource

variable {σ : Type} [RandomSource σ]

/-- The source after `n` draws. -/
def after : Nat → σ → σ
  | 0, s => s
  | n + 1, s => after n (next s).2

/-- The word that follows `n` others. -/
def word (s : σ) (n : Nat) : UInt32 := (next (after n s)).1

/-- The number in `[0, 1)` that the 24 highest bits of a word stand for. -/
def unitOfWord (x : UInt32) : Float32 := (x >>> 8).toFloat32 * Float32.ofBits 0x33800000

end RandomSource

end PlantGrammar
