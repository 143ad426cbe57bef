import PlantGrammar.Habit
import PlantGrammar.Json.Value

/-!
# The format of habits

A field that is missing has its usual value.
-/

namespace PlantGrammar.Habit

/-- The names of the fields, in order. -/
def fieldNames : List String :=
  ["axiom", "iterations", "variation", "min_length", "base_angle", "base_width", "width_taper",
    "flower_position_divisor", "flower_normal_divisor"]

def toJson (h : Habit) : Json :=
  .object (fieldNames.zip
    [.string h.seed, .ofUInt32 h.iterations, .ofFloat32 h.variation, .ofFloat32 h.minLength,
      .ofFloat32 h.baseAngle, .ofFloat32 h.baseWidth, .ofFloat32 h.widthTaper,
      .ofFloat32 h.flowerPositionDivisor, .ofFloat32 h.flowerNormalDivisor])

/-- The value of a field that may be missing. -/
def field? {α : Type} (usual : α) (read : Json → Option α) : Option Json → Option α
  | none => some usual
  | some v => read v

def ofJson? (v : Json) : Option Habit := do
  let usual : Habit := {}
  match ← v.asFields? fieldNames with
  | [s, i, v, ml, ba, bw, wt, fp, fn] =>
    return {
      seed := ← field? usual.seed Json.asString? s
      iterations := ← field? usual.iterations Json.asUInt32? i
      variation := ← field? usual.variation Json.asFloat32? v
      minLength := ← field? usual.minLength Json.asFloat32? ml
      baseAngle := ← field? usual.baseAngle Json.asFloat32? ba
      baseWidth := ← field? usual.baseWidth Json.asFloat32? bw
      widthTaper := ← field? usual.widthTaper Json.asFloat32? wt
      flowerPositionDivisor := ← field? usual.flowerPositionDivisor Json.asFloat32? fp
      flowerNormalDivisor := ← field? usual.flowerNormalDivisor Json.asFloat32? fn }
  | _ => none

end PlantGrammar.Habit
