/-!
# Errors

What can keep a plant from being grown. Each error is a cause with its data; `message` words it.
-/

namespace PlantGrammar

/-- Why lists of numbers are not a flower. -/
inductive FlowerDefect where
  /-- The coordinates of the positions do not come in threes. -/
  | raggedPositions (floats : Nat)
  /-- The normals have more or fewer coordinates than the positions. -/
  | normalCoordinates (normals positions : Nat)
  /-- There are more or fewer normals than vertices. -/
  | normalCount (normals vertices : Nat)
  /-- The indices do not come in threes. -/
  | raggedIndices (count : Nat)
  /-- An index names no vertex. -/
  | indexOutOfRange (index vertices : Nat)
  deriving DecidableEq, Repr

/-- Why there is no mesh. -/
inductive GrowthError where
  /-- The symbol at `position` closes a branch that was not opened, or, when `position` is the length
  of the word, `unclosed` branches are still open at its end. -/
  | stackUnderflow (position unclosed : Nat)
  /-- The flower was given up before it arrived. -/
  | missingFlower
  /-- The mesh needs indices for `vertices` vertices, more than 32-bit indices can tell apart. -/
  | indexOverflow (vertices : Nat)
  | invalidFlower (defect : FlowerDefect)
  /-- The turtle has no pose to draw from. -/
  | emptyTurtle
  deriving DecidableEq, Repr

def FlowerDefect.message : FlowerDefect → String
  | raggedPositions n => s!"position array length {n} is not a multiple of 3"
  | normalCoordinates n p => s!"{n} normal floats for {p} position floats"
  | normalCount n v => s!"{n} normals for {v} vertices"
  | raggedIndices n => s!"index count {n} is not a multiple of 3"
  | indexOutOfRange i v => s!"index {i} out of range for {v} vertices"

def GrowthError.message : GrowthError → String
  | stackUnderflow p u => s!"turtle stack underflow at symbol {p} ({u} unclosed branches)"
  | missingFlower => "flower mesh asset is not available"
  | indexOverflow v => s!"mesh has more than u32::MAX vertices ({v})"
  | invalidFlower d => "invalid flower mesh: " ++ d.message
  | emptyTurtle => "turtle has no pose"

end PlantGrammar
