import PlantGrammar.Proofs.Drawing.Balance
import PlantGrammar.Proofs.Drawing.Pens

/-!
# Branches

A branch in brackets leaves the turtle as it was, so what follows it is drawn as if it stood alone,
with the rest of the random source.  In the mesh of both, the vertices of what follows come after
those of the branch, and its indices are greater by their number.

* `Layout.obstacle_of_append`: nothing keeps the parts from being drawn if nothing keeps the whole.
* `Species.build_bracket`: the mesh of a branch and what follows it.
-/

namespace PlantGrammar

namespace Layout

open MeshBuilder

variable {f : Flower} {v w : Word}

/-- A symbol that can be drawn after a balanced word and more can be drawn without that word. -/
theorem offence_eq_none_of_append (balanced : v.Balanced) {u : Word} {s : Symbol}
    (free : offence f (v ++ u) s = none) : offence f u s = none := by
  have open_branches := balanced.tally_eq
  refine offence_eq_none_of_le ?_ ?_ free
  · rw [vertices_append]
    omega
  · simp only [Word.tally_append]
    omega

theorem obstacle_of_append (balanced : v.Balanced) (free : obstacle f (v ++ w) = none) :
    obstacle f v = none ∧ obstacle f w = none := by
  rw [obstacle_eq_none_iff, firstOffence_append, Option.or_eq_none_iff,
    List.findSome?_eq_none_iff, Word.tally_append, Word.tally_append] at free
  obtain ⟨⟨first, later⟩, closed⟩ := free
  have open_branches := balanced.tally_eq
  refine ⟨obstacle_eq_none_iff.2 ⟨first, by omega⟩, obstacle_eq_none_iff.2 ⟨?_, by omega⟩⟩
  exact List.findSome?_eq_none_iff.2 fun p site => offence_eq_none_of_append balanced (later p site)

end Layout

namespace Species

open Layout MeshBuilder

variable {σ : Type} [RandomSource σ]

theorem vertexCount_of_mesh_build {sp : Species} {w : Word} {f : Flower} {source : σ} {j : Journal}
    {m : Mesh} (drawn : (sp.build w f source j).mesh = .ok m) : m.vertexCount = vertices f w := by
  obtain ⟨c, laid_out, rfl⟩ := drawn_of_mesh_build drawn
  exact laid_out.size

/-- A branch does not depend on what follows it, nor what follows it on the branch: the mesh of both
consists of the mesh of the branch alone and of the mesh of what follows, drawn alone with what the
branch leaves of the random source. -/
theorem build_bracket {sp : Species} {v w : Word} {f : Flower} {source : σ} {j : Journal} {m : Mesh}
    (balanced : v.Balanced)
    (drawn : (sp.build (.push :: v ++ .pop :: w) f source j).mesh = .ok m) (j₁ j₂ : Journal) :
    let branch := sp.build (.push :: v ++ [.pop]) f source j₁
    ∃ m₁ m₂, branch.mesh = .ok m₁ ∧ (sp.build w f branch.source j₂).mesh = .ok m₂ ∧
      m.positions = m₁.positions ++ m₂.positions ∧ m.normals = m₁.normals ++ m₂.normals ∧
      m.indices.toList.map UInt32.toNat = m₁.indices.toList.map UInt32.toNat ++
        m₂.indices.toList.map fun i => m₁.vertexCount + i.toNat := by
  intro branch
  have parts : Symbol.push :: v ++ Symbol.pop :: w = (Symbol.push :: v ++ [Symbol.pop]) ++ w := by
    simp
  rw [parts] at drawn
  obtain ⟨free, indices, positions, normals⟩ := mesh_build_eq_ok_iff.1 drawn
  obtain ⟨free₁, free₂⟩ := obstacle_of_append balanced.bracket free
  obtain ⟨m₁, drawn₁⟩ := exists_mesh_build free₁ sp source j₁
  obtain ⟨m₂, drawn₂⟩ := exists_mesh_build free₂ sp branch.source j₂
  obtain ⟨-, indices₁, positions₁, normals₁⟩ := mesh_build_eq_ok_iff.1 drawn₁
  obtain ⟨-, indices₂, positions₂, normals₂⟩ := mesh_build_eq_ok_iff.1 drawn₂
  -- the pen comes back to the root, with the source that the branch leaves
  have back : (Pen.root source).run sp.habit (Symbol.push :: v ++ [Symbol.pop]) =
      .root branch.source := by
    obtain ⟨rest, back⟩ := Pen.run_bracket sp.habit (.root source) balanced
    have left : branch.source = rest := by
      rw [source_build_of_ok drawn₁, back]
    rw [back, left]
    rfl
  have strokes :
      ((Pen.root source).strokes sp.habit f (Symbol.push :: v ++ [Symbol.pop] ++ w)).flatten =
        ((Pen.root source).strokes sp.habit f (Symbol.push :: v ++ [Symbol.pop])).flatten ++
          ((Pen.root branch.source).strokes sp.habit f w).flatten := by
    rw [Pen.strokes_append, List.flatten_append, back]
  refine ⟨m₁, m₂, drawn₁, drawn₂, Array.ext' ?_, Array.ext' ?_, ?_⟩
  · rw [positions, strokes, positionCoordinates_append, Array.toList_append, positions₁,
      positions₂]
  · rw [normals, strokes, normalCoordinates_append, Array.toList_append, normals₁, normals₂]
  · rw [indices, indices_append, indices₁, ← vertexCount_of_mesh_build drawn₁, ← indices₂,
      List.map_map]
    rfl

/-- The branch has a turn and a branch of its own; 25 vertices come before what follows it. -/
theorem build_bracket_of_nested :
    Word.Balanced [.shoot, .turn, .push, .flower, .pop] ∧
    ∃ m m₁ m₂ : Mesh, (({} : Species).build
        (Symbol.push :: [.shoot, .turn, .push, .flower, .pop] ++ Symbol.pop :: [.bud, .flower])
        ⟨[.zero], [.zero], [0, 0, 0]⟩ (⟨[5], 7⟩ : Scripted) (.start none)).mesh = .ok m ∧
      (({} : Species).build (Symbol.push :: [.shoot, .turn, .push, .flower, .pop] ++ [Symbol.pop])
        ⟨[.zero], [.zero], [0, 0, 0]⟩ (⟨[5], 7⟩ : Scripted) (.start none)).mesh = .ok m₁ ∧
      m₁.vertexCount = 25 ∧ m.positions = m₁.positions ++ m₂.positions ∧
      m.indices.toList.map UInt32.toNat = m₁.indices.toList.map UInt32.toNat ++
        m₂.indices.toList.map fun i => 25 + i.toNat := by
  have balanced : Word.Balanced [.shoot, .turn, .push, .flower, .pop] := by decide
  have free : obstacle ⟨[.zero], [.zero], [0, 0, 0]⟩
      (Symbol.push :: [.shoot, .turn, .push, .flower, .pop] ++ Symbol.pop :: [.bud, .flower]) =
        none := by
    decide
  obtain ⟨m, drawn⟩ := exists_mesh_build free {} (⟨[5], 7⟩ : Scripted) (.start none)
  obtain ⟨m₁, m₂, drawn₁, -, positions, -, indices⟩ :=
    build_bracket balanced drawn (.start none) (.start none)
  have count : m₁.vertexCount = 25 := (vertexCount_of_mesh_build drawn₁).trans (by decide)
  rw [count] at indices
  exact ⟨balanced, m, m₁, m₂, drawn, drawn₁, count, positions, indices⟩

end Species

end PlantGrammar
