import PlantGrammar.Format.Geometry
import PlantGrammar.Mesh.Finished
import PlantGrammar.Mesh.Flower

/-!
# The format of flowers and meshes

Flowers are written vertex by vertex, finished meshes buffer by buffer. What is read is not checked:
indices may name vertices that do not exist, and lists may have any length.
-/

namespace PlantGrammar

namespace Flower

def toJson (f : Flower) : Json :=
  .object [("positions", .array (f.positions.map Vec3.toJson)),
    ("normals", .array (f.normals.map Vec3.toJson)),
    ("indices", .array (f.indices.map .ofUInt32))]

def ofJson? (v : Json) : Option Flower :=
  match v.asFields? ["positions", "normals", "indices"] with
  | some [some ps, some ns, some is] => do
    return ⟨← ps.asList? Vec3.ofJson?, ← ns.asList? Vec3.ofJson?, ← is.asList? Json.asUInt32?⟩
  | _ => none

end Flower

namespace Mesh

def toJson (m : Mesh) : Json :=
  .object [("indices", .array (m.indices.toList.map .ofUInt32)),
    ("positions", .array (m.positions.toList.map .ofFloat32)),
    ("normals", .array (m.normals.toList.map .ofFloat32))]

def ofJson? (v : Json) : Option Mesh :=
  match v.asFields? ["indices", "positions", "normals"] with
  | some [some is, some ps, some ns] => do
    let indices ← is.asList? Json.asUInt32?
    let positions ← ps.asList? Json.asFloat32?
    let normals ← ns.asList? Json.asFloat32?
    return ⟨indices.toArray, positions.toArray, normals.toArray⟩
  | _ => none

end Mesh

end PlantGrammar
