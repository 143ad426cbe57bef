import PlantGrammar.Geometry.Vector

/-!
# Turns

A turn gives the turtle one of four orientations, each a function of one angle. A turn replaces the
orientation that the turtle had: it does not compose with it.
-/

namespace PlantGrammar

/-- The orientations that a turn chooses from. -/
inductive TurnTemplate where
  /-- A rotation about the first axis. -/
  | pitchUp
  /-- A rotation about the second axis. -/
  | rollRight
  /-- A rotation about the first axis with the second axis reflected. -/
  | pitchReflected
  /-- A rotation about the second axis, the other way round. -/
  | rollLeft
  deriving DecidableEq, Repr

namespace TurnTemplate

/-- The templates in the order in which a random choice numbers them. -/
def all : List TurnTemplate := [pitchUp, rollRight, pitchReflected, rollLeft]

/-- The choice made by a random word: its two highest bits. -/
def ofWord (x : UInt32) : TurnTemplate :=
  match (x >>> 30).toNat with
  | 0 => pitchUp
  | 1 => rollRight
  | 2 => pitchReflected
  | _ => rollLeft

/-- The orientation for an angle in radians. -/
def matrix (t : TurnTemplate) (angle : Float32) : Mat3 :=
  let s := angle.sin
  let c := angle.cos
  match t with
  | pitchUp => ⟨⟨1, 0, 0⟩, ⟨0, c, s⟩, ⟨0, -s, c⟩⟩
  | rollRight => ⟨⟨c, 0, -s⟩, ⟨0, 1, 0⟩, ⟨s, 0, c⟩⟩
  | pitchReflected => ⟨⟨1, 0, 0⟩, ⟨0, -c, s⟩, ⟨0, s, c⟩⟩
  | rollLeft => ⟨⟨c, 0, s⟩, ⟨0, 1, 0⟩, ⟨-s, 0, c⟩⟩

end TurnTemplate

/-- The binary32 number nearest to π / 180. -/
def radiansPerDegree : Float32 := Float32.ofBits 0x3c8efa35

/-- The size of an angle given in degrees. -/
def toRadians (degrees : Float32) : Float32 := degrees * radiansPerDegree

end PlantGrammar
