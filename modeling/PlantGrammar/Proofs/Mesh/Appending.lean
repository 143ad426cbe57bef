import PlantGrammar.Mesh.Builder

/-!
# Appending blocks

Appending a block has three ways to end (`MeshBuilder.append_cases`): the mesh already has more
vertices than there are indices, the vertices of the block are appended but its greatest index
becomes too great, or the whole block is appended, each index increased by the number of vertices
before it.  Which of them it is depends on two numbers only, that number of vertices and the
greatest index of the block (`MeshBuilder.failure_append`).
-/

namespace PlantGrammar.MeshBuilder

/-! ### The greatest index -/

theorem greatest_le_iff {indices : List UInt32} {n : Nat} :
    greatest indices ≤ n ↔ ∀ i ∈ indices, i.toNat ≤ n := by
  have from_start : ∀ m, indices.foldl (fun m i => max m i.toNat) m ≤ n ↔
      m ≤ n ∧ ∀ i ∈ indices, i.toNat ≤ n := by
    induction indices with
    | nil => simp
    | cons i is ih =>
      intro m
      rw [List.foldl_cons, ih, Nat.max_le, List.forall_mem_cons, and_assoc]
  simpa [greatest] using from_start 0

/-- With room for the first index there is room for all of them exactly when there is room for the
greatest. -/
theorem fits_iff {base : Nat} {indices : List UInt32} (room : base ≤ maxIndex) :
    (∀ i ∈ indices, base + i.toNat ≤ maxIndex) ↔ base + greatest indices ≤ maxIndex := by
  have total : base + greatest indices ≤ maxIndex ↔ greatest indices ≤ maxIndex - base := by omega
  rw [total, greatest_le_iff]
  refine forall₂_congr fun i _ => ?_
  omega

/-- Indices that fit are shifted without wrapping around. -/
theorem toNat_shift {base : UInt32} {indices : List UInt32}
    (fits : ∀ i ∈ indices, base.toNat + i.toNat ≤ maxIndex) :
    (indices.map (base + ·)).map UInt32.toNat = indices.map fun i => base.toNat + i.toNat := by
  rw [List.map_map]
  refine List.map_congr_left fun i hi => ?_
  have small := fits i hi
  rw [Function.comp_apply, UInt32.toNat_add]
  exact Nat.mod_eq_of_lt (by unfold maxIndex at small; omega)

/-! ### Indices -/

section

variable {b : MeshBuilder} {base : UInt32} {is : List UInt32}

/-- The check of the indices one by one is a check of the greatest. -/
theorem all_fit_iff : (is.all fun i => base.toNat + i.toNat ≤ maxIndex) ↔
    base.toNat + greatest is ≤ maxIndex := by
  rw [← fits_iff (Nat.le_of_lt_succ base.toNat_lt)]
  simp only [List.all_eq_true, decide_eq_true_eq]

theorem pushIndices_of_fits (fits : base.toNat + greatest is ≤ maxIndex) :
    b.pushIndices base is =
      ({ b with indices := b.indices ++ (is.map (base + ·)).toArray }, none) :=
  if_pos (all_fit_iff.2 fits)

/-- If one index does not fit, none is pushed. -/
theorem pushIndices_of_large (large : maxIndex < base.toNat + greatest is) :
    b.pushIndices base is = (b, some (.indexOverflow (base.toNat + greatest is + 1))) :=
  if_neg fun fit => Nat.not_le_of_lt large (all_fit_iff.1 fit)

end

/-! ### Vertices -/

theorem length_positionCoordinates (vs : List Vertex) :
    (positionCoordinates vs).length = 4 * vs.length := by
  induction vs with
  | nil => rfl
  | cons v vs ih =>
    rw [positionCoordinates] at ih ⊢
    rw [List.flatMap_cons, List.length_append, ih, List.length_cons]
    simp only [Vec3.toList, List.length_append, List.length_cons, List.length_nil]
    omega

theorem size_positions_pushVertices (b : MeshBuilder) (vs : List Vertex) :
    (b.pushVertices vs).positions.size = b.positions.size + 4 * vs.length := by
  rw [← Array.length_toList, toList_positions_pushVertices, List.length_append,
    length_positionCoordinates, Array.length_toList]

theorem size_pushVertices (b : MeshBuilder) (vs : List Vertex) :
    (b.pushVertices vs).size = b.size + vs.length := by
  rw [size, size_positions_pushVertices, size]
  omega

/-! ### Blocks -/

/-- The builder with a whole block appended, whose indices are shifted by `base`. -/
def withBlock (b : MeshBuilder) (base : UInt32) (block : Block) : MeshBuilder :=
  { b.pushVertices block.vertices with
    indices := b.indices ++ (block.indices.map (base + ·)).toArray }

/-- The three ways in which appending a block ends. -/
theorem append_cases (b : MeshBuilder) (block : Block) :
    (maxIndex < b.size ∧ b.append block = (b, some (.indexOverflow b.size))) ∨
    (b.size ≤ maxIndex ∧ maxIndex < b.size + greatest block.indices ∧
      b.append block = (b.pushVertices block.vertices,
        some (.indexOverflow (b.size + greatest block.indices + 1)))) ∨
    (b.size + greatest block.indices ≤ maxIndex ∧ ∃ base : UInt32, base.toNat = b.size ∧
      b.append block = (b.withBlock base block, none)) := by
  by_cases room : b.size ≤ maxIndex
  · right
    obtain ⟨base, next⟩ : ∃ base, b.nextIndex = .ok base := ⟨_, if_pos room⟩
    have hbase := nextIndex_eq_ok_iff.1 next
    rw [← hbase] at room
    by_cases fits : base.toNat + greatest block.indices ≤ maxIndex
    · right
      refine ⟨hbase ▸ fits, base, hbase, ?_⟩
      simp only [append, next, pushIndices_of_fits fits, indices_pushVertices, withBlock]
    · left
      have large := Nat.lt_of_not_le fits
      refine ⟨hbase ▸ room, hbase ▸ large, ?_⟩
      simp only [append, next, pushIndices_of_large large, hbase]
  · left
    have next : b.nextIndex = .error (.indexOverflow b.size) := if_neg room
    exact ⟨by omega, by simp only [append, next]⟩

/-- Why a block with the given greatest index cannot be appended to `base` vertices, if it
cannot. -/
def overflow (base largest : Nat) : Option GrowthError :=
  if maxIndex < base then some (.indexOverflow base)
  else if maxIndex < base + largest then some (.indexOverflow (base + largest + 1))
  else none

theorem overflow_eq_none_iff {base largest : Nat} :
    overflow base largest = none ↔ base + largest ≤ maxIndex := by
  unfold overflow
  split
  · simp only [reduceCtorEq, false_iff]
    omega
  · split
    · simp only [reduceCtorEq, false_iff]
      omega
    · simp only [true_iff]
      omega

theorem failure_append (b : MeshBuilder) (block : Block) :
    (b.append block).2 = overflow b.size (greatest block.indices) := by
  unfold overflow
  rcases append_cases b block with ⟨full, e⟩ | ⟨room, large, e⟩ | ⟨fits, base, -, e⟩
  · rw [e, if_pos full]
  · rw [e, if_neg (by omega), if_pos large]
  · rw [e, if_neg (by omega), if_neg (by omega)]

/-- A block that is appended adds its vertices, and its indices increased by the number of vertices
that were there before. -/
theorem append_of_failure_eq_none {b : MeshBuilder} {block : Block}
    (ok : (b.append block).2 = none) :
    (b.append block).1.size = b.size + block.vertices.length ∧
    (b.append block).1.indices.toList.map UInt32.toNat =
      b.indices.toList.map UInt32.toNat ++ block.indices.map fun i => b.size + i.toNat := by
  rcases append_cases b block with ⟨-, e⟩ | ⟨-, -, e⟩ | ⟨fits, base, hbase, e⟩
  · rw [e] at ok
    cases ok
  · rw [e] at ok
    cases ok
  · rw [e]
    rw [← hbase] at fits ⊢
    refine ⟨hbase ▸ size_pushVertices b block.vertices, ?_⟩
    rw [← toNat_shift ((fits_iff (by omega)).2 fits), ← List.map_append, withBlock,
      Array.toList_append]

end PlantGrammar.MeshBuilder
