import PlantGrammar.Geometry.Vector

/-!
# Growth habits

The habit of a species: the text that it starts from, the number of passes in which that grows, and
the measures of segments, turns and flowers. All measures are rounded operation by operation.
-/

namespace PlantGrammar

/-- The numbers that shape a plant. -/
structure Habit where
  /-- The text of the word that growth starts from. -/
  seed : String := "SDSBS"
  /-- The number of passes in which the word grows. -/
  iterations : UInt32 := 2
  /-- How much lengths and angles vary; without variation plants of one species are alike. -/
  variation : Float32 := 20
  /-- The length of a segment at the root, before variation. -/
  minLength : Float32 := 2
  /-- The angle of a turn in degrees, before variation. -/
  baseAngle : Float32 := 30
  /-- The width of a segment at depth 0. -/
  baseWidth : Float32 := 0.7
  /-- A segment is narrower by the inverse of this for each unit of depth. -/
  widthTaper : Float32 := 7
  /-- The positions of a flower are divided by this. -/
  flowerPositionDivisor : Float32 := 3
  /-- The normals of a flower are divided by this. -/
  flowerNormalDivisor : Float32 := 2

namespace Habit

/-- The length of a segment at the given depth, for a sample `u` from `[0, 1)`. Segments shorten with
the depth, over as many steps as there are passes. -/
def branchLength (h : Habit) (depth : Nat) (u : Float32) : Float32 :=
  let jitter := u * (h.variation / 20) - h.variation / 50
  let taper := if h.iterations = 0 then 0 else (Float32.ofNat depth - 1) / h.iterations.toFloat32
  h.minLength + jitter - taper

/-- The width of a segment at the given depth. -/
def branchWidth (h : Habit) (depth : Nat) : Float32 :=
  h.baseWidth - Float32.ofNat depth / h.widthTaper

/-- The angle of a turn in degrees, for a sample `u` from `[0, 1)`. -/
def turnAngle (h : Habit) (u : Float32) : Float32 := h.baseAngle + u * h.variation

end Habit

end PlantGrammar
