import PlantGrammar.GrowthError
import PlantGrammar.Mesh.Block
import PlantGrammar.Mesh.Finished

/-!
# Mesh builders

The buffers to which blocks are appended while a plant is drawn. Triangles number the vertices of
the whole mesh, so the indices of a block are shifted by the number of vertices before it. Indices
have 32 bits, and both that number and every shifted index are checked.
-/

namespace PlantGrammar

/-- A mesh under construction. -/
structure MeshBuilder where
  indices : Array UInt32
  positions : Array Float32
  normals : Array Float32
  deriving DecidableEq

namespace MeshBuilder

def empty : MeshBuilder := ⟨#[], #[], #[]⟩

/-- The greatest index. -/
def maxIndex : Nat := 0xFFFFFFFF

/-- The number of vertices, whether or not it is an index. -/
def size (b : MeshBuilder) : Nat := b.positions.size / 4

/-- The number of vertices as the index of the next one. -/
def nextIndex (b : MeshBuilder) : Except GrowthError UInt32 :=
  if b.size ≤ maxIndex then .ok (UInt32.ofNat b.size) else .error (.indexOverflow b.size)

/-- Appends a vertex: its position with fourth coordinate 1, its normal with fourth coordinate 0. -/
def pushVertex (b : MeshBuilder) (v : Vertex) : MeshBuilder :=
  { b with
    positions := (((b.positions.push v.position.x).push v.position.y).push v.position.z).push 1
    normals := (((b.normals.push v.normal.x).push v.normal.y).push v.normal.z).push 0 }

/-- Appends vertices in order. -/
def pushVertices (b : MeshBuilder) (vs : List Vertex) : MeshBuilder := vs.foldl pushVertex b

/-- The greatest of the indices, or 0 if there are none. -/
def greatest (indices : List UInt32) : Nat := indices.foldl (fun m i => max m i.toNat) 0

/-- Appends indices, each shifted by `base`, or none at all if one of them becomes too great. -/
def pushIndices (b : MeshBuilder) (base : UInt32) (indices : List UInt32) :
    MeshBuilder × Option GrowthError :=
  if indices.all fun i => base.toNat + i.toNat ≤ maxIndex then
    ({ b with indices := b.indices ++ (indices.map (base + ·)).toArray }, none)
  else
    (b, some (.indexOverflow (base.toNat + greatest indices + 1)))

/-- Appends a block. If its indices become too great its vertices stay. -/
def append (b : MeshBuilder) (block : Block) : MeshBuilder × Option GrowthError :=
  match b.nextIndex with
  | .error e => (b, some e)
  | .ok base => (b.pushVertices block.vertices).pushIndices base block.indices

/-- The coordinates of positions as they are appended. -/
def positionCoordinates (vs : List Vertex) : List Float32 :=
  vs.flatMap fun v => v.position.toList ++ [1]

/-- The coordinates of normals as they are appended. -/
def normalCoordinates (vs : List Vertex) : List Float32 :=
  vs.flatMap fun v => v.normal.toList ++ [0]

/-- The mesh built so far. -/
def finish (b : MeshBuilder) : Mesh := ⟨b.indices, b.positions, b.normals⟩

@[simp]
theorem indices_pushVertices (b : MeshBuilder) (vs : List Vertex) :
    (b.pushVertices vs).indices = b.indices := by
  induction vs generalizing b with
  | nil => rfl
  | cons v vs ih => exact ih (b.pushVertex v)

theorem toList_positions_pushVertices (b : MeshBuilder) (vs : List Vertex) :
    (b.pushVertices vs).positions.toList = b.positions.toList ++ positionCoordinates vs := by
  induction vs generalizing b with
  | nil => simp [pushVertices, positionCoordinates]
  | cons v vs ih =>
    rw [show b.pushVertices (v :: vs) = (b.pushVertex v).pushVertices vs from rfl, ih]
    simp [pushVertex, positionCoordinates, Vec3.toList]

theorem toList_normals_pushVertices (b : MeshBuilder) (vs : List Vertex) :
    (b.pushVertices vs).normals.toList = b.normals.toList ++ normalCoordinates vs := by
  induction vs generalizing b with
  | nil => simp [pushVertices, normalCoordinates]
  | cons v vs ih =>
    rw [show b.pushVertices (v :: vs) = (b.pushVertex v).pushVertices vs from rfl, ih]
    simp [pushVertex, normalCoordinates, Vec3.toList]

theorem nextIndex_eq_ok_iff {b : MeshBuilder} {i : UInt32} :
    b.nextIndex = .ok i ↔ i.toNat = b.size := by
  have hi := i.toNat_lt
  unfold nextIndex maxIndex
  split
  · next h =>
    rw [Except.ok.injEq]
    constructor
    · rintro rfl
      exact UInt32.toNat_ofNat_of_lt' (Nat.lt_of_le_of_lt h (by decide))
    · intro hs
      rw [← hs, UInt32.ofNat_toNat]
  · next h =>
    simp only [reduceCtorEq, false_iff]
    omega

end MeshBuilder

end PlantGrammar
