import PlantGrammar.Proofs.Drawing.Draws

/-!
# Ornaments

A flower is drawn where the turtle stands, and changes neither the turtle nor the random source.  So a
word without its flowers (`Word.plain`) is drawn as it would be with them, by the same pen.  What the
mesh loses are the blocks of the flowers, and the indices behind them become smaller by the number of
vertices lost.

* `Word.Blocks`: how a buffer of a mesh consists of the blocks of the symbols.
* `Pen.exists_blocks`: coordinates with and without the flowers.
* `Layout.exists_blocks`: indices with and without the flowers.
* `Species.build_plain`: the mesh of a word without its flowers.
-/

namespace PlantGrammar

theorem Symbol.action_eq_flower_iff {s : Symbol} : s.action = .flower ↔ s = .flower :=
  s.action_eq_iff.2.2.2.2.1

/-! ### Words without flowers -/

namespace Word

/-- The word without its flowers. -/
def plain (w : Word) : Word := w.filter (· ≠ .flower)

theorem tally_plain {a : Action} (other : a ≠ .flower) (w : Word) : tally a w.plain = tally a w := by
  apply tally_filter
  rintro s rfl
  exact decide_eq_true fun flower => other (Symbol.action_eq_flower_iff.2 flower)

theorem tally_flower_plain (w : Word) : tally .flower w.plain = 0 := by
  apply List.countP_eq_zero.2
  intro s mem
  have kept := (List.mem_filter.1 mem).2
  simpa [Symbol.action_eq_flower_iff] using kept

theorem draws_plain (w : Word) : draws w.plain = draws w := by
  rw [draws, draws, tally_plain (by decide), tally_plain (by decide)]

/-- A list consists of blocks, one for each symbol of the word, with the sizes that the symbols have. -/
structure Blocks {α : Type} (size : Symbol → Nat) (w : Word) (xs : List α) (blocks : List (List α)) :
    Prop where
  sizes : blocks.map List.length = w.map size
  joined : blocks.flatten = xs

/-- The blocks that do not belong to flowers, each with the part of the word before its symbol. -/
def plainBlocks {α : Type} (w : Word) (blocks : List (List α)) : List (Word × List α) :=
  ((w.sites.zip blocks).filter fun p => p.1.2 ≠ .flower).map fun p => (p.1.1, p.2)

variable {α : Type} (block : Word × Symbol → List α)

/-- What is written for the sites of a word, one after the other, consists of blocks. -/
theorem blocks_sites {size : Symbol → Nat} (sized : ∀ q, (block q).length = size q.2) (w : Word) :
    w.Blocks size (w.sites.flatMap block) (w.sites.map block) where
  sizes := by
    have sites_sized : List.length ∘ block = size ∘ Prod.snd := funext sized
    rw [List.map_map, sites_sized, ← List.map_map, map_snd_sites]
  joined := List.flatMap_def.symm

theorem plainBlocks_sites (w : Word) :
    w.plainBlocks (w.sites.map block) =
      (w.sites.filter fun q => q.2 ≠ .flower).map fun q => (q.1, block q) := by
  have zipped : w.sites.zip (w.sites.map block) = w.sites.map fun q => (q, block q) := by
    have paired : (w.sites.map id).zip (w.sites.map block) = w.sites.map fun q => (q, block q) :=
      List.zip_map'
    rwa [List.map_id] at paired
  rw [plainBlocks, zipped, List.filter_map, List.map_map]
  rfl

end Word

/-! ### Coordinates -/

namespace Pen

open Layout

variable {σ : Type} [RandomSource σ] (h : Habit) (f : Flower) (p : Pen σ)

theorem run_plain (w : Word) : p.run h w.plain = p.run h w := by
  induction w generalizing p with
  | nil => rfl
  | cons s w ih =>
    by_cases flower : s = .flower
    · subst flower
      exact ih p
    · have kept : Word.plain (s :: w) = s :: Word.plain w :=
        List.filter_cons_of_pos (decide_eq_true flower)
      rw [kept]
      exact ih (p.step h s)

/-- When each vertex is written with `n` coordinates, what is written for the word without its flowers
is what is left when the blocks of the flowers are deleted. -/
theorem exists_blocks (g : Vertex → List Float32) {n : Nat} (count : ∀ v, (g v).length = n)
    (w : Word) :
    ∃ blocks, w.Blocks (fun s => n * symbolVertices f s) ((p.strokes h f w).flatten.flatMap g)
        blocks ∧
      (p.strokes h f w.plain).flatten.flatMap g = (w.plainBlocks blocks).flatMap Prod.snd := by
  let block (q : Word × Symbol) : List Float32 := ((p.run h q.1).stroke h f q.2).flatMap g
  have written (v : Word) : (p.strokes h f v).flatten.flatMap g = v.sites.flatMap block := by
    rw [strokes_eq_map_sites, ← List.flatMap_def, List.flatMap_assoc]
  have sized (q : Word × Symbol) : (block q).length = n * symbolVertices f q.2 := by
    have each : (fun v => (g v).length) = fun _ => n := funext count
    rw [List.length_flatMap, each, List.map_const', List.sum_replicate_nat, length_stroke,
      Nat.mul_comm]
  refine ⟨w.sites.map block, ?_, ?_⟩
  · rw [written]
    exact Word.blocks_sites block sized w
  · have same (q : Word × Symbol) : block (q.1.plain, q.2) = block q := by
      simp only [block, run_plain]
    rw [written, Word.plainBlocks_sites, List.flatMap_map, Word.plain, Word.sites_filter,
      List.flatMap_map]
    exact congrArg (List.flatMap · _) (funext same)

end Pen

/-! ### Indices -/

namespace Layout

variable {f : Flower} {w : Word}

/-- The number of indices drawn for one symbol. -/
def symbolIndices (f : Flower) (s : Symbol) : Nat :=
  match s.action with
  | .branch => 36
  | .flower => f.indices.length
  | _ => 0

theorem length_block (f : Flower) (base : Nat) (s : Symbol) :
    (block f base s).length = symbolIndices f s := by
  unfold block symbolIndices
  cases s.action with
  | branch => exact (List.length_map _).trans Box.length_indices
  | flower => exact List.length_map _
  | push | pop | turn | ignore => rfl

theorem vertices_plain (f : Flower) (w : Word) :
    vertices f w = flowerVertices f * w.tally .flower + vertices f w.plain := by
  rw [vertices, vertices, Word.tally_plain (by decide), Word.tally_flower_plain]
  omega

/-- The indices of the word without its flowers are what is left when the blocks of the flowers are
deleted and the other blocks are decreased by the number of vertices that were deleted before them. -/
theorem exists_blocks (f : Flower) (w : Word) :
    ∃ blocks, w.Blocks (symbolIndices f) (indices f w) blocks ∧
      ((indices f w.plain).map fun i : Nat => (i : Int)) = (w.plainBlocks blocks).flatMap fun p =>
        p.2.map fun i : Nat => (i : Int) - (flowerVertices f * p.1.tally .flower : Nat) := by
  let written (q : Word × Symbol) : List Nat := block f (vertices f q.1) q.2
  refine ⟨w.sites.map written, Word.blocks_sites written (fun q => length_block f _ q.2) w, ?_⟩
  have rebased (q : Word × Symbol) :
      ((block f (vertices f q.1.plain) q.2).map fun i : Nat => (i : Int)) = (written q).map fun i : Nat =>
        (i : Int) - (flowerVertices f * q.1.tally .flower : Nat) := by
    simp only [written]
    rw [vertices_plain f q.1, block_add, List.map_map]
    apply List.map_congr_left
    intro i _
    simp only [Function.comp_apply]
    omega
  rw [Word.plainBlocks_sites, List.flatMap_map, indices, Word.plain, Word.sites_filter,
    List.flatMap_map, List.map_flatMap]
  exact congrArg (List.flatMap · _) (funext rebased)

/-- A word that can be drawn can be drawn without its flowers. -/
theorem obstacle_plain (free : obstacle f w = none) : obstacle f w.plain = none := by
  obtain ⟨first, closed⟩ := obstacle_eq_none_iff.1 free
  apply obstacle_eq_none_iff.2
  refine ⟨?_, ?_⟩
  · rw [firstOffence, Word.plain, Word.sites_filter, List.findSome?_map,
      List.findSome?_eq_none_iff]
    intro q site
    have here := List.findSome?_eq_none_iff.1 first q (List.mem_filter.1 site).1
    refine offence_eq_none_of_le ?_ ?_ here
    · rw [vertices_plain f q.1]
      exact Nat.le_add_left _ _
    · intro root
      have root' : Word.tally .pop q.1.plain = Word.tally .push q.1.plain := root
      rwa [Word.tally_plain (by decide), Word.tally_plain (by decide)] at root'
  · rwa [Word.tally_plain (by decide), Word.tally_plain (by decide)]

end Layout

/-! ### Meshes -/

namespace Species

open Layout MeshBuilder

variable {σ : Type} [RandomSource σ]

/-- Flowers influence nothing but their own blocks.  A word that can be drawn can be drawn without its
flowers, from the same random source with the same number of words.  The coordinates of its vertices
are those of the whole mesh with the blocks of the flowers deleted, bit for bit, and so are its
indices, less the number of vertices that were deleted before them. -/
theorem build_plain {sp : Species} {w : Word} {f : Flower} {source : σ} {j : Journal} {m : Mesh}
    (drawn : (sp.build w f source j).mesh = .ok m) (j' : Journal) :
    ∃ m', (sp.build w.plain f source j').mesh = .ok m' ∧
      sp.drawn w.plain f source j' = sp.drawn w f source j ∧
      (sp.build w.plain f source j').source = (sp.build w f source j).source ∧
      (∃ blocks, w.Blocks (fun s => 4 * symbolVertices f s) m.positions.toList blocks ∧
        m'.positions.toList = (w.plainBlocks blocks).flatMap Prod.snd) ∧
      (∃ blocks, w.Blocks (fun s => 4 * symbolVertices f s) m.normals.toList blocks ∧
        m'.normals.toList = (w.plainBlocks blocks).flatMap Prod.snd) ∧
      ∃ blocks, w.Blocks (symbolIndices f) (m.indices.toList.map UInt32.toNat) blocks ∧
        (m'.indices.toList.map fun i => (i.toNat : Int)) = (w.plainBlocks blocks).flatMap fun p =>
          p.2.map fun i : Nat => (i : Int) - (flowerVertices f * p.1.tally .flower : Nat) := by
  obtain ⟨free, indices, positions, normals⟩ := mesh_build_eq_ok_iff.1 drawn
  have free' : obstacle f w.plain = none := obstacle_plain free
  obtain ⟨m', drawn'⟩ := exists_mesh_build free' sp source j'
  obtain ⟨-, indices', positions', normals'⟩ := mesh_build_eq_ok_iff.1 drawn'
  refine ⟨m', drawn', ?_, ?_, ?_, ?_, ?_⟩
  · rw [drawn_of_obstacle_eq_none free', drawn_of_obstacle_eq_none free, Word.draws_plain]
  · rw [source_build_of_ok drawn', source_build_of_ok drawn, Pen.run_plain]
  · rw [positions, positions']
    exact Pen.exists_blocks sp.habit f (.root source) (fun v => v.position.toList ++ [1])
      (fun _ => rfl) w
  · rw [normals, normals']
    exact Pen.exists_blocks sp.habit f (.root source) (fun v => v.normal.toList ++ [0])
      (fun _ => rfl) w
  · have cast : (m'.indices.toList.map fun i => (i.toNat : Int)) =
        (m'.indices.toList.map UInt32.toNat).map fun i : Nat => (i : Int) := (List.map_map ..).symm
    rw [indices, cast, indices']
    exact Layout.exists_blocks f w

/-- One flower stands before the branch and one in it. -/
theorem build_plain_of_two_flowers :
    let f : Flower := ⟨[.zero], [.zero], [0, 0, 0]⟩
    let w : Word := [.flower, .push, .turn, .bud, .flower, .pop, .shoot]
    let plain : Word := [.push, .turn, .bud, .pop, .shoot]
    let source : Scripted := ⟨[5], 7⟩
    ∃ m m', (({} : Species).build w f source (.start none)).mesh = .ok m ∧
      (({} : Species).build plain f source (.start none)).mesh = .ok m' ∧
      ({} : Species).drawn plain f source (.start none) =
        ({} : Species).drawn w f source (.start none) ∧
      ∃ blocks, w.Blocks (symbolIndices f) (m.indices.toList.map UInt32.toNat) blocks ∧
        (m'.indices.toList.map fun i => (i.toNat : Int)) = (w.plainBlocks blocks).flatMap fun p =>
          p.2.map fun i : Nat => (i : Int) - (flowerVertices f * p.1.tally .flower : Nat) := by
  intro f w plain source
  obtain ⟨m, drawn⟩ := exists_mesh_build (f := f) (w := w) (by decide) {} source (.start none)
  obtain ⟨m', drawn', count, -, -, -, indices⟩ := build_plain drawn (.start none)
  exact ⟨m, m', drawn, drawn', count, indices⟩

end Species

end PlantGrammar
