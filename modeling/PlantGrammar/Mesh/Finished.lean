import PlantGrammar.Geometry.Vector

/-!
# Finished meshes

Flat buffers as a renderer takes them: three indices for a triangle, four coordinates for the
position and for the normal of a vertex, with little-endian bytes for each buffer.
-/

namespace PlantGrammar

/-- A triangle mesh in three flat buffers. -/
structure Mesh where
  indices : Array UInt32
  positions : Array Float32
  normals : Array Float32
  deriving DecidableEq

namespace Mesh

def vertexCount (m : Mesh) : Nat := m.positions.size / 4

def triangleCount (m : Mesh) : Nat := m.indices.size / 3

/-- The four coordinates from a place of a buffer on. The place where they stop has 64 bits too, and
must not come before the one where they start. -/
def fourFrom? (buffer : Array Float32) (start : UInt64) : Option Vec4 :=
  let stop := start + 4
  if h : start.toNat ≤ stop.toNat ∧ stop.toNat ≤ buffer.size then
    have room : start.toNat + 4 ≤ buffer.size := by
      have sum : stop.toNat = (start.toNat + 4) % 2 ^ 64 := UInt64.toNat_add start 4
      omega
    some ⟨buffer[start.toNat], buffer[start.toNat + 1], buffer[start.toNat + 2],
      buffer[start.toNat + 3]⟩
  else
    none

/-- The coordinates of entry `v` in a buffer with four coordinates for each entry. -/
def quad? (buffer : Array Float32) (v : UInt64) : Option Vec4 := fourFrom? buffer (v * 4)

/-- The position of a vertex. -/
def position? (m : Mesh) (v : UInt64) : Option Vec4 := quad? m.positions v

/-- The normal of a vertex. -/
def normal? (m : Mesh) (v : UInt64) : Option Vec4 := quad? m.normals v

/-- The bytes of a word, the lowest first. -/
def wordBytes (x : UInt32) : List UInt8 :=
  [x.toUInt8, (x >>> 8).toUInt8, (x >>> 16).toUInt8, (x >>> 24).toUInt8]

def indexBytes (m : Mesh) : List UInt8 := m.indices.toList.flatMap wordBytes

def positionBytes (m : Mesh) : List UInt8 := m.positions.toList.flatMap fun x => wordBytes x.toBits

def normalBytes (m : Mesh) : List UInt8 := m.normals.toList.flatMap fun x => wordBytes x.toBits

end Mesh

end PlantGrammar
