import PlantGrammar.Mesh.Block

/-!
# The segment box

A segment is a box around the third axis, from height 0 to height 1, with its own four corners and
its own normal on each of the six faces.
-/

namespace PlantGrammar

namespace Box

/-- A face: its corners in the order of its boundary, and its normal. -/
structure Face where
  corners : List Vec3
  normal : Vec3

def faces : List Face :=
  [⟨[⟨-0.5, -0.5, 0⟩, ⟨-0.5, 0.5, 0⟩, ⟨0.5, 0.5, 0⟩, ⟨0.5, -0.5, 0⟩], ⟨0, 0, -1⟩⟩,
    ⟨[⟨-0.5, -0.5, 1⟩, ⟨-0.5, 0.5, 1⟩, ⟨0.5, 0.5, 1⟩, ⟨0.5, -0.5, 1⟩], ⟨0, 0, 1⟩⟩,
    ⟨[⟨-0.5, -0.5, 0⟩, ⟨-0.5, 0.5, 0⟩, ⟨-0.5, 0.5, 1⟩, ⟨-0.5, -0.5, 1⟩], ⟨-1, 0, 0⟩⟩,
    ⟨[⟨0.5, 0.5, 0⟩, ⟨0.5, -0.5, 0⟩, ⟨0.5, -0.5, 1⟩, ⟨0.5, 0.5, 1⟩], ⟨1, 0, 0⟩⟩,
    ⟨[⟨-0.5, 0.5, 0⟩, ⟨0.5, 0.5, 0⟩, ⟨0.5, 0.5, 1⟩, ⟨-0.5, 0.5, 1⟩], ⟨0, 1, 0⟩⟩,
    ⟨[⟨-0.5, -0.5, 0⟩, ⟨0.5, -0.5, 0⟩, ⟨0.5, -0.5, 1⟩, ⟨-0.5, -0.5, 1⟩], ⟨0, -1, 0⟩⟩]

/-- The corners of all faces, each with the normal of its face. -/
def vertices : List Vertex := faces.flatMap fun f => f.corners.map fun c => ⟨c, f.normal⟩

/-- Two triangles on each face. -/
def indices : List UInt32 :=
  [0, 1, 2, 0, 2, 3,
    4, 5, 6, 4, 6, 7,
    8, 9, 10, 8, 10, 11,
    12, 13, 14, 12, 14, 15,
    16, 17, 18, 16, 18, 19,
    20, 21, 22, 20, 22, 23]

/-- The box of width and height 1. -/
def block : Block := ⟨vertices, indices⟩

/-- A segment of the given width and length. -/
def segment (width length : Float32) : Block := block.shape (· * ⟨width, width, length⟩) id

theorem length_vertices_segment (width length : Float32) :
    (segment width length).vertices.length = 24 := by
  rw [segment, Block.length_vertices_shape]
  rfl

theorem length_indices : indices.length = 36 := rfl

theorem lt_of_mem_indices {i : UInt32} (h : i ∈ indices) : i.toNat < 24 := by
  have all : indices.all (fun i => i.toNat < 24) = true := by decide
  exact of_decide_eq_true (List.all_eq_true.1 all i h)

end Box

end PlantGrammar
