import PlantGrammar.Geometry.Turn

/-!
# Poses

Where the turtle is and how it is oriented. The pose maps the coordinates in which segments and
flowers are described to those of the plant.
-/

namespace PlantGrammar

/-- A position and an orientation. -/
structure Pose where
  position : Vec3
  rotation : Mat3
  deriving DecidableEq

namespace Pose

/-- At the origin, with the axes of the plant. -/
def root : Pose := ⟨.zero, .identity⟩

/-- The direction in which the turtle moves: the image of the third axis. -/
def heading (p : Pose) : Vec3 := p.rotation.apply .unitZ

/-- Moves along the heading. -/
def advance (p : Pose) (distance : Float32) : Pose :=
  { p with position := p.position + p.heading.scale distance }

/-- Takes the orientation of a template turned by an angle in degrees. -/
def reorient (p : Pose) (t : TurnTemplate) (degrees : Float32) : Pose :=
  { p with rotation := t.matrix (toRadians degrees) }

/-- The place of a point given in the coordinates of the pose. -/
def point (p : Pose) (v : Vec3) : Vec3 := p.rotation.apply v + p.position

/-- A direction given in the coordinates of the pose. -/
def direction (p : Pose) (v : Vec3) : Vec3 := p.rotation.apply v

end Pose

end PlantGrammar
