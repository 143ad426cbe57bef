import PlantGrammar.Proofs.Drawing.Pens
import PlantGrammar.Random.Scripted

/-!
# Frames of drawing acts

What a segment or a flower leaves as it was.  However the act ends, the buffers of the mesh keep all
they had, in front of what is added (`MeshBuilder.Extends`).  An act that fails adds no index and
moves nothing; its vertices it may have added by then, but never some of them without the others
(`MeshBuilder.Refuses`).  A flower never moves the turtle, and a segment changes only where it is.

* `MeshBuilder.extends_append`, `MeshBuilder.refuses_append`: what appending a block does, in either
  case.
* `MeshBuilder.gainsBox_append`: what a segment adds.
* `Canvas.frame_of_acts`: all this for segments and flowers on any canvas with a pose.
-/

namespace PlantGrammar

/-! ### Faces of a segment -/

namespace Box

/-- The four corners of a face have its normal. -/
theorem map_normal_vertices :
    vertices.map Vertex.normal = (faces.map Face.normal).flatMap (List.replicate 4) := rfl

/-- The triangles are six indices for each face, which name its corners. -/
theorem face_of_getElem?_indices {k : Nat} {i : UInt32} (listed : indices[k]? = some i) :
    i.toNat / 4 = k / 6 := by
  have all : ∀ k < 36, (indices[k]?.map fun i => i.toNat / 4) = some (k / 6) := by decide
  obtain ⟨bound, -⟩ := List.getElem?_eq_some_iff.1 listed
  have here := all k bound
  rw [listed] at here
  exact Option.some.inj here

end Box

theorem Block.map_normal_shape (b : Block) (f g : Vec3 → Vec3) :
    (b.shape f g).vertices.map Vertex.normal = (b.vertices.map Vertex.normal).map g := by
  simp [shape, Function.comp_def]

/-! ### What becomes of a mesh -/

namespace MeshBuilder

/-- What was in the buffers is still there, in front of what came later. -/
structure Extends (b b' : MeshBuilder) : Prop where
  indices : b.indices.toList <+: b'.indices.toList
  positions : b.positions.toList <+: b'.positions.toList
  normals : b.normals.toList <+: b'.normals.toList

/-- What is left when a block could not be appended: the indices are the same, and no vertex was
added if the first had no index already, else all of them were. -/
structure Refuses (b : MeshBuilder) (block : Block) (b' : MeshBuilder) : Prop where
  indices : b'.indices = b.indices
  vertices : (maxIndex < b.size ∧ b' = b) ∨ (b.size ≤ maxIndex ∧ b.Gains block.vertices b')

/-- What a segment adds: 24 vertices, in fours with one normal each, and 36 indices, which name these
vertices, six in a row those of one four. -/
structure GainsBox (b b' : MeshBuilder) : Prop where
  size : b'.size = b.size + 24
  vertices : ∃ (vs : List Vertex) (normals : List Vec3), b.Gains vs b' ∧ normals.length = 6 ∧
    vs.map Vertex.normal = normals.flatMap (List.replicate 4)
  indices : ∃ is : List UInt32, b'.indices.toList = b.indices.toList ++ is ∧ is.length = 36 ∧
    (∀ i ∈ is, b.size ≤ i.toNat ∧ i.toNat < b.size + 24) ∧
    ∀ k i, is[k]? = some i → (i.toNat - b.size) / 4 = k / 6

variable {b b' : MeshBuilder} {vs : List Vertex} {block : Block}

theorem extends_refl (b : MeshBuilder) : b.Extends b :=
  ⟨List.prefix_rfl, List.prefix_rfl, List.prefix_rfl⟩

theorem Gains.extends (gains : b.Gains vs b') (indices : b.indices.toList <+: b'.indices.toList) :
    b.Extends b' where
  indices := indices
  positions := ⟨_, gains.positions.symm⟩
  normals := ⟨_, gains.normals.symm⟩

/-- Appending a block takes nothing away, whether or not it succeeds. -/
theorem extends_append (b : MeshBuilder) (block : Block) : b.Extends (b.append block).1 := by
  rcases append_cases b block with ⟨-, e⟩ | ⟨-, -, e⟩ | ⟨-, base, -, e⟩
  · rw [e]
    exact extends_refl b
  · rw [e]
    apply (gains_pushVertices b block.vertices).extends
    exact (indices_pushVertices b block.vertices).symm ▸ List.prefix_rfl
  · rw [e]
    apply (gains_withBlock b base block).extends
    rw [withBlock, Array.toList_append]
    exact List.prefix_append _ _

theorem refuses_append {e : GrowthError} (failed : (b.append block).2 = some e) :
    b.Refuses block (b.append block).1 := by
  rcases append_cases b block with ⟨full, e'⟩ | ⟨room, -, e'⟩ | ⟨-, base, -, e'⟩
  · rw [e']
    exact ⟨rfl, .inl ⟨full, rfl⟩⟩
  · rw [e']
    exact ⟨indices_pushVertices b block.vertices, .inr ⟨room, gains_pushVertices b _⟩⟩
  · rw [e'] at failed
    cases failed

end MeshBuilder

namespace Canvas

open MeshBuilder

variable {σ : Type} {c : Canvas σ} {p : Pose} {ps : List Pose}

/-- A segment that finds its indices adds a box. -/
theorem gainsBox_append [RandomSource σ] {h : Habit}
    (ok : (c.builder.append (c.segmentAt h p)).2 = none) :
    c.builder.GainsBox (c.builder.append (c.segmentAt h p)).1 := by
  obtain ⟨size, shifted⟩ := append_of_failure_eq_none ok
  obtain ⟨is, added⟩ := (extends_append c.builder (c.segmentAt h p)).indices
  have box : is.map UInt32.toNat = Box.indices.map fun i => c.builder.size + i.toNat := by
    rw [← added, List.map_append, indices_segmentAt] at shifted
    exact List.append_cancel_left shifted
  have named {i : UInt32} (mem : i ∈ is) :
      ∃ j ∈ Box.indices, c.builder.size + j.toNat = i.toNat := by
    have image : i.toNat ∈ is.map UInt32.toNat := List.mem_map_of_mem mem
    rw [box] at image
    exact List.mem_map.1 image
  refine ⟨?_, ?_, is, added.symm, ?_, fun i mem => ?_, fun k i listed => ?_⟩
  · rw [size, length_vertices_segmentAt]
  · refine ⟨_, (Box.faces.map Box.Face.normal).map p.direction, gains_append ok, rfl, ?_⟩
    rw [segmentAt, Block.place, Block.map_normal_shape, Box.segment, Block.map_normal_shape,
      List.map_id, Box.block, Box.map_normal_vertices, List.map_flatMap, List.flatMap_map]
    simp only [List.flatMap_map, List.map_replicate]
  · rw [← List.length_map UInt32.toNat, box, List.length_map, Box.length_indices]
  · obtain ⟨j, mem, sum⟩ := named mem
    have := Box.lt_of_mem_indices mem
    omega
  · have image : (is.map UInt32.toNat)[k]? = some i.toNat := by
      rw [List.getElem?_map, listed, Option.map_some]
    rw [box, List.getElem?_map, Option.map_eq_some_iff] at image
    obtain ⟨j, listed, sum⟩ := image
    rw [← sum, Nat.add_sub_cancel_left]
    exact Box.face_of_getElem?_indices listed

/-! ### What becomes of the turtle -/

section Turtle

variable [RandomSource σ] (poses : c.turtle.poses = p :: ps) {h : Habit}

include poses

theorem turtle_branch_of_failure_eq_some {e : GrowthError}
    (failed : (c.branch h).failure = some e) : (c.branch h).canvas.turtle = c.turtle := by
  rw [branch_eq poses] at failed ⊢
  generalize c.builder.append (c.segmentAt h p) = r at failed ⊢
  obtain ⟨_, _ | e⟩ := r
  · cases failed
  · rfl

theorem poses_branch_of_failure_eq_none (ok : (c.branch h).failure = none) :
    (c.branch h).canvas.turtle.poses = p.advance (c.segmentLength h) :: ps := by
  rw [branch_eq poses] at ok ⊢
  generalize c.builder.append (c.segmentAt h p) = r at ok ⊢
  obtain ⟨_, _ | e⟩ := r
  · rfl
  · cases ok

end Turtle

/-- Segments and flowers take nothing from the mesh.  When they fail they leave the indices and the
turtle as they were, and of their vertices they have added none, because there were too many already,
or all.  A flower leaves the turtle as it was in any case; a segment that is drawn adds a box and
changes the position of the current pose, nothing else of the turtle. -/
theorem frame_of_acts [RandomSource σ] (poses : c.turtle.poses = p :: ps) (h : Habit) (f : Flower) :
    let flower := c.flower h f
    let segment := c.branch h
    (c.builder.Extends flower.canvas.builder ∧ flower.canvas.turtle = c.turtle ∧
      ∀ e, flower.failure = some e → c.builder.Refuses (f.blockAt h p) flower.canvas.builder) ∧
    (c.builder.Extends segment.canvas.builder ∧
      (∀ e, segment.failure = some e → segment.canvas.turtle = c.turtle ∧
        c.builder.Refuses (c.segmentAt h p) segment.canvas.builder) ∧
      (segment.failure = none →
        (∃ position, segment.canvas.turtle.poses = { p with position } :: ps) ∧
          c.builder.GainsBox segment.canvas.builder)) := by
  dsimp only
  refine ⟨⟨?_, turtle_flower poses h f, fun e failed => ?_⟩, ?_, fun e failed => ⟨?_, ?_⟩,
    fun ok => ⟨?_, ?_⟩⟩
  · rw [builder_flower poses]
    exact extends_append _ _
  · rw [failure_flower poses] at failed
    rw [builder_flower poses]
    exact refuses_append failed
  · rw [builder_branch poses]
    exact extends_append _ _
  · exact turtle_branch_of_failure_eq_some poses failed
  · rw [failure_branch poses] at failed
    rw [builder_branch poses]
    exact refuses_append failed
  · exact ⟨_, poses_branch_of_failure_eq_none poses ok⟩
  · rw [failure_branch poses] at ok
    rw [builder_branch poses]
    exact gainsBox_append ok

/-- The index of the flower has no room behind the vertex that is there already, which shows only when
the flower's own vertex has been added.  The segment is drawn with one branch open. -/
theorem frame_of_acts_of_late_failure :
    let c : Canvas Scripted :=
      ⟨⟨[.root, .root]⟩, MeshBuilder.empty.pushVertex ⟨.zero, .unitZ⟩, ⟨[5], 7⟩, .start none⟩
    let f : Flower := ⟨[.zero], [.unitZ], [0xFFFFFFFF]⟩
    c.turtle.poses = [.root, .root] ∧
    (c.flower {} f).failure = some (.indexOverflow 0x100000001) ∧
    (c.flower {} f).canvas.builder.indices = c.builder.indices ∧
    c.builder.Gains (f.blockAt {} .root).vertices (c.flower {} f).canvas.builder ∧
    (c.branch {}).failure = none ∧ c.builder.GainsBox (c.branch {}).canvas.builder := by
  intro c f
  have failed : (c.flower {} f).failure = some (.indexOverflow 0x100000001) := by decide +kernel
  have ok : (c.branch {}).failure = none := by decide +kernel
  obtain ⟨⟨-, -, flower⟩, -, -, segment⟩ := frame_of_acts (c := c) rfl {} f
  obtain ⟨indices, vertices⟩ := flower _ failed
  rcases vertices with ⟨full, -⟩ | ⟨-, gains⟩
  · exact absurd full (by decide)
  · exact ⟨rfl, failed, indices, gains, ok, (segment ok).2⟩

end Canvas

end PlantGrammar
