import PlantGrammar.Json.Value
import PlantGrammar.Turtle

/-!
# The format of poses and turtles

Vectors and matrices are arrays of their entries, a matrix axis by axis. The poses of a turtle are
written from the root to the current one. A turtle without poses can be read.
-/

namespace PlantGrammar

namespace Vec3

def toJson (v : Vec3) : Json := .array (v.toList.map .ofFloat32)

def ofJson? (v : Json) : Option Vec3 :=
  match v.asList? Json.asFloat32? with
  | some [x, y, z] => some ⟨x, y, z⟩
  | _ => none

end Vec3

namespace Mat3

def toJson (m : Mat3) : Json := .array (m.toList.map .ofFloat32)

def ofJson? (v : Json) : Option Mat3 :=
  match v.asList? Json.asFloat32? with
  | some [a, b, c, d, e, f, g, h, i] => some ⟨⟨a, b, c⟩, ⟨d, e, f⟩, ⟨g, h, i⟩⟩
  | _ => none

end Mat3

namespace TurnTemplate

def name : TurnTemplate → String
  | pitchUp => "PitchUp"
  | rollRight => "RollRight"
  | pitchReflected => "PitchMirrored"
  | rollLeft => "RollLeft"

def toJson (t : TurnTemplate) : Json := .string t.name

def ofJson? (v : Json) : Option TurnTemplate :=
  v.asName?.bind fun n => all.find? fun t => t.name = n

end TurnTemplate

namespace Pose

def toJson (p : Pose) : Json :=
  .object [("position", p.position.toJson), ("rotation", p.rotation.toJson)]

def ofJson? (v : Json) : Option Pose :=
  match v.asFields? ["position", "rotation"] with
  | some [some p, some r] => do return ⟨← Vec3.ofJson? p, ← Mat3.ofJson? r⟩
  | _ => none

end Pose

namespace Turtle

def toJson (t : Turtle) : Json :=
  .object [("states", .array (t.poses.reverse.map Pose.toJson))]

def ofJson? (v : Json) : Option Turtle :=
  match v.asFields? ["states"] with
  | some [some ps] => (ps.asList? Pose.ofJson?).map fun ps => ⟨ps.reverse⟩
  | _ => none

end Turtle

end PlantGrammar
