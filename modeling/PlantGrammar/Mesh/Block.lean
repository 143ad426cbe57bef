import PlantGrammar.Geometry.Pose

/-!
# Blocks

A block is a piece of geometry in its own coordinates: vertices, and triangles that number them from
zero. Segments and flowers are blocks; drawing one shapes it, places it at a pose and appends it to
the mesh.
-/

namespace PlantGrammar

/-- A point of a surface and the direction of the surface there. -/
structure Vertex where
  position : Vec3
  normal : Vec3
  deriving DecidableEq

/-- Vertices and the triangles between them. -/
structure Block where
  vertices : List Vertex
  indices : List UInt32

namespace Block

/-- Changes positions by `f` and normals by `g`. -/
def shape (b : Block) (f g : Vec3 → Vec3) : Block :=
  { b with vertices := b.vertices.map fun v => ⟨f v.position, g v.normal⟩ }

/-- Carries the block from the coordinates of a pose to those of the plant. -/
def place (b : Block) (p : Pose) : Block := b.shape p.point p.direction

@[simp]
theorem indices_shape (b : Block) (f g : Vec3 → Vec3) : (b.shape f g).indices = b.indices := rfl

@[simp]
theorem length_vertices_shape (b : Block) (f g : Vec3 → Vec3) :
    (b.shape f g).vertices.length = b.vertices.length := by
  simp [shape]

@[simp]
theorem indices_place (b : Block) (p : Pose) : (b.place p).indices = b.indices := rfl

@[simp]
theorem length_vertices_place (b : Block) (p : Pose) :
    (b.place p).vertices.length = b.vertices.length :=
  length_vertices_shape _ _ _

end Block

end PlantGrammar
