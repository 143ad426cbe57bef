import PlantGrammar.Proofs.Derivation.StandardRules
import PlantGrammar.Proofs.Drawing.Capacity

/-!
# Plants of the standard rules

How many vertices and triangles a plant of the standard rules has, from its seed and the number of
passes: the numbers of segments and flowers in the expanded word are known in advance, and each of
them has a block of known size.

* `Species.triangleCount_of_mesh_build`: the triangles of a mesh, from its word.
* `Species.grow_standard`: the size of a plant of the standard rules.
-/

namespace PlantGrammar.Species

open Layout MeshBuilder

variable {σ : Type} [RandomSource σ]

theorem triangleCount_of_mesh_build {sp : Species} {w : Word} {f : Flower} {source : σ} {j : Journal}
    {m : Mesh} (three : 3 ∣ f.indices.length) (drawn : (sp.build w f source j).mesh = .ok m) :
    m.triangleCount = 12 * w.tally .branch + f.indices.length / 3 * w.tally .flower := by
  obtain ⟨c, laid_out, rfl⟩ := drawn_of_mesh_build drawn
  have size : c.builder.finish.indices.size = (Layout.indices f w).length := by
    rw [← laid_out.indices, List.length_map, Array.length_toList]
    rfl
  obtain ⟨k, triangles⟩ := three
  have third : 3 * k / 3 = k := Nat.mul_div_cancel_left k (by omega)
  rw [Mesh.triangleCount, size, Layout.length_indices, triangles, third, Nat.mul_assoc]
  omega

/-- Under the standard rules the numbers of segments, of flowers and of all symbols are polynomials in
the number of passes.  A plant with a balanced seed grows if there are indices for its vertices, and
the sizes of its mesh follow. -/
theorem grow_standard :
    (∀ (seed : Word) (n : Nat),
      (RuleTable.standard.expand seed n).tally .branch = seed.count .internode +
        seed.count .bud * (n + 1) + seed.count .shoot * ((n + 1) * (n + 2) / 2) ∧
      (RuleTable.standard.expand seed n).tally .flower =
        seed.count .flower + seed.count .shoot * n ∧
      RuleTable.standard.predictedLength seed n =
        min (seed.countP (fun s => s ≠ .bud ∧ s ≠ .shoot) + seed.count .bud * (4 * n + 1) +
          seed.count .shoot * (2 * n ^ 2 + 8 * n + 1)) (2 ^ 64 - 1)) ∧
    ∀ {σ : Type} [RandomSource σ] (habit : Habit) {positions normals : List Vec3}
      {indices : List UInt32} {f : Flower} (source : σ) (j : Journal),
      Flower.make positions normals indices = .ok f →
      let seed := Word.ofText habit.seed
      let n := habit.iterations.toNat
      let branches := seed.count .internode + seed.count .bud * (n + 1) +
        seed.count .shoot * ((n + 1) * (n + 2) / 2)
      let flowers := seed.count .flower + seed.count .shoot * n
      seed.Balanced →
      24 * branches + positions.length * flowers < 2 ^ 32 →
      ∃ m, (grow ⟨.standard, habit⟩ f source j).mesh = .ok m ∧
        m.vertexCount = 24 * branches + positions.length * flowers ∧
        m.triangleCount = 12 * branches + indices.length / 3 * flowers := by
  refine ⟨fun seed n => ⟨?_, ?_, ?_⟩, ?_⟩
  · exact RuleTable.tally_branch_expand_standard seed n
  · exact RuleTable.tally_flower_expand_standard seed n
  · rw [RuleTable.predictedLength_eq_min, RuleTable.length_expand_standard]
    rfl
  · intro σ _ habit positions normals indices f source j made seed n branches flowers balanced fits
    have inRange : f.InRange := Flower.Checked.inRange (.make made)
    obtain ⟨rfl, same_length, three, -⟩ := Flower.make_eq_ok_iff.1 made
    have drawn_branches : (RuleTable.standard.expand seed n).tally .branch = branches :=
      RuleTable.tally_branch_expand_standard seed n
    have drawn_flowers : (RuleTable.standard.expand seed n).tally .flower = flowers :=
      RuleTable.tally_flower_expand_standard seed n
    have total : vertices ⟨positions, normals, indices⟩ (RuleTable.standard.expand seed n) =
        24 * branches + positions.length * flowers := by
      rw [vertices, drawn_branches, drawn_flowers, flowerVertices, same_length, Nat.min_self]
    have still_balanced : (RuleTable.standard.expand seed n).Balanced :=
      (RuleTable.level_expand RuleTable.keepsBrackets_standard 0 seed n).trans balanced
    have room : vertices ⟨positions, normals, indices⟩ (RuleTable.standard.expand seed n) ≤
        maxIndex := by
      rw [total]
      exact Nat.le_of_lt_succ fits
    have free := obstacle_eq_none_of_fits still_balanced inRange room
    obtain ⟨j', grown⟩ := grow_eq_build .standard habit ⟨positions, normals, indices⟩ source j
    obtain ⟨m, drawn⟩ := exists_mesh_build free { habit } source j'
    refine ⟨m, by rw [grown]; exact drawn, ?_, ?_⟩
    · rw [vertexCount_of_mesh_build drawn, total]
    · rw [triangleCount_of_mesh_build (Nat.dvd_of_mod_eq_zero three) drawn, drawn_branches,
        drawn_flowers]

/-- Two passes make of the seed six segments for the shoot and three for the bud. -/
theorem grow_standard_of_two_passes :
    Flower.make [.zero, .zero] [.zero, .zero] [0, 1, 1] =
      .ok ⟨[.zero, .zero], [.zero, .zero], [0, 1, 1]⟩ ∧
    Word.Balanced (Word.ofText "[S]BF") ∧
    ∃ m, (grow ⟨.standard, { seed := "[S]BF" }⟩ ⟨[.zero, .zero], [.zero, .zero], [0, 1, 1]⟩
        (⟨[], 0⟩ : Scripted) (.start none)).mesh = .ok m ∧
      m.vertexCount = 222 ∧ m.triangleCount = 111 := by
  have made : Flower.make [.zero, .zero] [.zero, .zero] [0, 1, 1] =
      .ok ⟨[.zero, .zero], [.zero, .zero], [0, 1, 1]⟩ := rfl
  have balanced : Word.Balanced (Word.ofText "[S]BF") := by decide
  obtain ⟨m, grown, vertices, triangles⟩ := grow_standard.2 { seed := "[S]BF" } (⟨[], 0⟩ : Scripted)
    (.start none) made balanced (by decide)
  exact ⟨made, balanced, m, grown, vertices.trans (by decide), triangles.trans (by decide)⟩

end PlantGrammar.Species
