import PlantGrammar.Proofs.Drawing.Acts
import PlantGrammar.Proofs.Drawing.Runs
import PlantGrammar.Proofs.Mesh.Appending
import PlantGrammar.Random.Scripted

/-!
# The layout of a mesh

Where the vertices and triangles of a symbol stand in the mesh depends only on the word before it
and on the flower, not on the habit or the random source.  `Layout.vertices` and `Layout.indices`
say where, without drawing anything; `Canvas.Drawn` says that a canvas is laid out in this way, and
every act that succeeds keeps that true.

* `Layout.indices_append`: the indices of two words, one after the other.
* `Species.indices_build`: the indices of a mesh are those of the layout, so two meshes of one word
  with one flower have the same.
-/

namespace PlantGrammar

namespace Layout

/-- The number of vertices of a flower that are drawn: a position without a normal, or a normal
without a position, is left out. -/
def flowerVertices (f : Flower) : Nat := min f.positions.length f.normals.length

/-- The number of vertices drawn for a word. -/
def vertices (f : Flower) (w : Word) : Nat :=
  24 * w.tally .branch + flowerVertices f * w.tally .flower

/-- The number of vertices drawn for one symbol. -/
def symbolVertices (f : Flower) (s : Symbol) : Nat :=
  match s.action with
  | .branch => 24
  | .flower => flowerVertices f
  | _ => 0

/-- The indices drawn for one symbol when `base` vertices stand before it. -/
def block (f : Flower) (base : Nat) (s : Symbol) : List Nat :=
  match s.action with
  | .branch => Box.indices.map fun i => base + i.toNat
  | .flower => f.indices.map fun i => base + i.toNat
  | _ => []

/-- The indices drawn for a word, symbol by symbol. -/
def indices (f : Flower) (w : Word) : List Nat :=
  w.sites.flatMap fun p => block f (vertices f p.1) p.2

theorem vertices_concat (f : Flower) (v : Word) (s : Symbol) :
    vertices f (v ++ [s]) = vertices f v + symbolVertices f s := by
  rw [vertices, vertices, Word.tally_append, Word.tally_append, Word.tally_singleton,
    Word.tally_singleton, symbolVertices, Nat.mul_add, Nat.mul_add]
  cases s.action <;> simp <;> omega

theorem indices_concat (f : Flower) (v : Word) (s : Symbol) :
    indices f (v ++ [s]) = indices f v ++ block f (vertices f v) s := by
  rw [indices, Word.sites_concat, List.flatMap_append]
  simp [indices]

theorem vertices_append (f : Flower) (v w : Word) :
    vertices f (v ++ w) = vertices f v + vertices f w := by
  simp only [vertices, Word.tally_append, Nat.mul_add]
  omega

theorem vertices_division (f : Flower) (v : Word) (s : Symbol) (w : Word) :
    vertices f (v ++ s :: w) = vertices f v + symbolVertices f s + vertices f w := by
  rw [← List.singleton_append, ← List.append_assoc, vertices_append, vertices_concat]

theorem block_add (f : Flower) (n base : Nat) (s : Symbol) :
    block f (n + base) s = (block f base s).map (n + ·) := by
  unfold block
  cases s.action <;> simp [Nat.add_assoc]

theorem indices_append (f : Flower) (v w : Word) :
    indices f (v ++ w) = indices f v ++ (indices f w).map (vertices f v + ·) := by
  have later : (fun p : Word × Symbol => block f (vertices f (v ++ p.1)) p.2) =
      fun p => (block f (vertices f p.1) p.2).map (vertices f v + ·) := by
    funext p
    rw [vertices_append, block_add]
  simp only [indices, Word.sites_append, List.flatMap_append, List.flatMap_map, List.map_flatMap,
    later]

end Layout

namespace Canvas

variable {σ : Type} {c : Canvas σ} {f : Flower} {v w : Word}

/-- The canvas is one on which the word `v` has been drawn: a pose more than branches are open, and
a mesh as the layout has it. -/
structure Drawn (c : Canvas σ) (f : Flower) (v : Word) : Prop where
  depth : c.turtle.depth + v.tally .pop = v.tally .push + 1
  depth_pos : 0 < c.turtle.depth
  size : c.builder.size = Layout.vertices f v
  indices : c.builder.indices.toList.map UInt32.toNat = Layout.indices f v

theorem drawn_blank (source : σ) (j : Journal) (f : Flower) : (blank source j).Drawn f [] :=
  ⟨rfl, Nat.one_pos, by simp [blank, MeshBuilder.size, MeshBuilder.empty, Layout.vertices], rfl⟩

theorem Drawn.exists_poses (drawn : c.Drawn f v) : ∃ p ps, c.turtle.poses = p :: ps :=
  List.exists_cons_of_length_pos drawn.depth_pos

/-- What an act has to do for a symbol so that the word drawn becomes longer by that symbol. -/
theorem Drawn.concat {c' : Canvas σ} {s : Symbol} (drawn : c.Drawn f v)
    (depth : c'.turtle.depth + Word.tally .pop [s] = c.turtle.depth + Word.tally .push [s])
    (depth_pos : 0 < c'.turtle.depth)
    (size : c'.builder.size = c.builder.size + Layout.symbolVertices f s)
    (indices : c'.builder.indices.toList.map UInt32.toNat =
      c.builder.indices.toList.map UInt32.toNat ++ Layout.block f c.builder.size s) :
    c'.Drawn f (v ++ [s]) := by
  refine ⟨?_, depth_pos, ?_, ?_⟩
  · have := drawn.depth
    rw [Word.tally_append, Word.tally_append]
    omega
  · rw [size, drawn.size, Layout.vertices_concat]
  · rw [indices, drawn.indices, drawn.size, Layout.indices_concat]

/-- The same for an act that leaves the mesh as it is. -/
theorem Drawn.concat_unseen {c' : Canvas σ} {s : Symbol} (drawn : c.Drawn f v)
    (branch : s.action ≠ .branch) (flower : s.action ≠ .flower) (builder : c'.builder = c.builder)
    (depth : c'.turtle.depth + Word.tally .pop [s] = c.turtle.depth + Word.tally .push [s])
    (depth_pos : 0 < c'.turtle.depth) : c'.Drawn f (v ++ [s]) := by
  refine drawn.concat depth depth_pos ?_ ?_
  · rw [builder, Layout.symbolVertices]
    cases act : s.action <;> simp_all
  · rw [builder, Layout.block]
    cases act : s.action <;> simp_all

/-- The same for an act that appends a block. -/
theorem Drawn.concat_block {c' : Canvas σ} {s : Symbol} {b : Block} (drawn : c.Drawn f v)
    (act : s.action = .branch ∨ s.action = .flower) (depth : c'.turtle.depth = c.turtle.depth)
    (builder : c'.builder = (c.builder.append b).1) (ok : (c.builder.append b).2 = none)
    (vertices : b.vertices.length = Layout.symbolVertices f s)
    (indices : ∀ base, (b.indices.map fun i => base + i.toNat) = Layout.block f base s) :
    c'.Drawn f (v ++ [s]) := by
  obtain ⟨size, shifted⟩ := MeshBuilder.append_of_failure_eq_none ok
  refine drawn.concat ?_ (depth ▸ drawn.depth_pos) ?_ ?_
  · rcases act with act | act <;> simp [depth, act]
  · rw [builder, size, vertices]
  · rw [builder, shifted, indices]

variable [RandomSource σ] {h : Habit}

/-- A step that succeeds draws its symbol, wherever in the word that stands. -/
theorem Drawn.step {i : Nat} (drawn : c.Drawn f v) (s : Symbol)
    (ok : (c.step h f i s).failure = none) : (c.step h f i s).canvas.Drawn f (v ++ [s]) := by
  obtain ⟨p, ps, poses⟩ := drawn.exists_poses
  cases act : s.action with
  | push =>
    rw [step_push h f i act poses]
    refine drawn.concat_unseen (by simp [act]) (by simp [act]) rfl ?_ (Nat.succ_pos _)
    simp [done, Turtle.depth, poses, act]
  | pop =>
    cases ps with
    | nil =>
      rw [step_pop_root h f i act (by simp [Turtle.depth, poses])] at ok
      cases ok
    | cons q qs =>
      rw [step_pop h f i act poses]
      refine drawn.concat_unseen (by simp [act]) (by simp [act]) rfl ?_ (Nat.succ_pos _)
      simp [done, Turtle.depth, poses, act]
  | branch =>
    rw [step_branch h f i act] at ok ⊢
    rw [failure_branch poses] at ok
    refine drawn.concat_block (.inl act) (depth_branch poses h) (builder_branch poses h) ok ?_ ?_
    · simp [Layout.symbolVertices, act]
    · simp [Layout.block, act]
  | turn =>
    rw [step_turn h f i act, turn_eq poses]
    refine drawn.concat_unseen (by simp [act]) (by simp [act]) rfl ?_ (Nat.succ_pos _)
    simp [done, Turtle.depth, poses, act]
  | flower =>
    rw [step_flower h f i act] at ok ⊢
    rw [failure_flower poses] at ok
    have depth : (c.flower h f).canvas.turtle.depth = c.turtle.depth := by
      rw [turtle_flower poses]
    refine drawn.concat_block (.inr act) depth (builder_flower poses h f) ok ?_ ?_
    · simp [Layout.symbolVertices, Layout.flowerVertices, act]
    · simp [Layout.block, act]
  | ignore =>
    rw [step_ignore h f i act]
    refine drawn.concat_unseen (by simp [act]) (by simp [act]) rfl ?_ drawn.depth_pos
    simp [done, act]

theorem Drawn.walk (drawn : c.Drawn f v) (ok : (c.walk h f v.length w).failure = none) :
    (c.walk h f v.length w).canvas.Drawn f (v ++ w) :=
  walk_invariant (P := fun v c => c.Drawn f v) (fun _ _ s drawn ok => drawn.step s ok) drawn ok

end Canvas

namespace Species

variable {σ : Type} [RandomSource σ]

/-- A mesh is what a walk has drawn that has come to the end of the word. -/
theorem drawn_of_mesh_build {sp : Species} {w : Word} {f : Flower} {source : σ} {j : Journal}
    {m : Mesh} (ok : (sp.build w f source j).mesh = .ok m) :
    ∃ c : Canvas σ, c.Drawn f w ∧ m = c.builder.finish := by
  obtain ⟨failed, rfl⟩ := walk_of_mesh_build ok
  exact ⟨_, (Canvas.drawn_blank source j f).walk failed, rfl⟩

/-- The indices of a mesh are the blocks of its branches and flowers, each shifted by the number of
vertices before it, and there are as many vertices as all these blocks have.  So no other habit and
no other random source give a mesh with other triangles. -/
theorem indices_build {sp : Species} {w : Word} {f : Flower} {source : σ} {j : Journal} {m : Mesh}
    (ok : (sp.build w f source j).mesh = .ok m) :
    m.indices.toList.map UInt32.toNat = Layout.indices f w ∧
    m.vertexCount = Layout.vertices f w ∧
    ∀ {τ : Type} [RandomSource τ] (sp' : Species) (source' : τ) (j' : Journal) (m' : Mesh),
      (sp'.build w f source' j').mesh = .ok m' →
        m'.indices = m.indices ∧ m'.vertexCount = m.vertexCount ∧
          m'.triangleCount = m.triangleCount := by
  obtain ⟨c, drawn, rfl⟩ := drawn_of_mesh_build ok
  refine ⟨drawn.indices, drawn.size, fun sp' source' j' m' ok' => ?_⟩
  obtain ⟨c', drawn', rfl⟩ := drawn_of_mesh_build ok'
  have same : c'.builder.indices = c.builder.indices := by
    have lists := drawn'.indices.trans drawn.indices.symm
    exact Array.ext' ((List.map_inj_right fun _ _ => UInt32.toNat.inj).1 lists)
  exact ⟨same, drawn'.size.trans drawn.size.symm, congrArg (·.size / 3) same⟩

/-- The flower has a position too many, and an index that names no vertex of it. -/
theorem indices_build_of_unchecked :
    ∃ m m', (({} : Species).build [.push, .turn, .internode, .flower, .pop, .shoot]
        ⟨[.zero, .zero], [.zero], [0, 7]⟩ (⟨[], 0⟩ : Scripted) (.start none)).mesh = .ok m ∧
      (build { habit := { variation := 0 } } [.push, .turn, .internode, .flower, .pop, .shoot]
        ⟨[.zero, .zero], [.zero], [0, 7]⟩ (⟨[7, 5], 1⟩ : Scripted) (.start none)).mesh = .ok m' ∧
      m.indices.toList.map UInt32.toNat =
        Box.indices.map UInt32.toNat ++ [24, 31] ++ Box.indices.map (25 + ·.toNat) ∧
      m.vertexCount = 49 ∧ m'.indices = m.indices := by
  obtain ⟨m, ok⟩ : ∃ m, (({} : Species).build [.push, .turn, .internode, .flower, .pop, .shoot]
      ⟨[.zero, .zero], [.zero], [0, 7]⟩ (⟨[], 0⟩ : Scripted) (.start none)).mesh = .ok m :=
    ⟨_, rfl⟩
  obtain ⟨m', ok'⟩ : ∃ m', (build { habit := { variation := 0 } }
      [.push, .turn, .internode, .flower, .pop, .shoot] ⟨[.zero, .zero], [.zero], [0, 7]⟩
      (⟨[7, 5], 1⟩ : Scripted) (.start none)).mesh = .ok m' := ⟨_, rfl⟩
  obtain ⟨indices, count, same⟩ := indices_build ok
  exact ⟨m, m', ok, ok', indices.trans (by decide), count.trans (by decide),
    (same _ _ _ _ ok').1⟩

end Species

end PlantGrammar
