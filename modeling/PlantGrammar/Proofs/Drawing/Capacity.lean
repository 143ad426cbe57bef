import PlantGrammar.Proofs.Drawing.Ranges

/-!
# The capacity of a mesh

A mesh has room for as many vertices as there are indices.  If the vertices of a whole word fit, so do
those of each of its symbols, and then only brackets can keep the word from being drawn.

* `Layout.obstacle_eq_none_of_fits`: a balanced word whose vertices fit can be drawn.
* `Layout.length_indices`: the number of indices that are drawn for a word.
-/

namespace PlantGrammar.Layout

open MeshBuilder

variable {f : Flower} {v w : Word}

/-- A symbol whose vertices fit finds indices for them. -/
theorem offence_ne_indexOverflow (inRange : f.InRange) {s : Symbol}
    (fits : vertices f v + symbolVertices f s ≤ maxIndex) (n : Nat) :
    offence f v s ≠ some (.indexOverflow n) := by
  unfold symbolVertices at fits
  unfold offence
  cases act : s.action with
  | branch =>
    simp only [act] at fits
    have room : overflow (vertices f v) 23 = none := overflow_eq_none_iff.2 (by omega)
    simp [room]
  | flower =>
    simp only [act] at fits
    have named : greatest f.indices ≤ flowerVertices f := by
      apply greatest_le_iff.2
      intro i mem
      exact Nat.le_of_lt (inRange i mem)
    have room : overflow (vertices f v) (greatest f.indices) = none :=
      overflow_eq_none_iff.2 (by omega)
    simp [room]
  | pop =>
    dsimp only
    split
    · simp
    · exact nofun
  | push | turn | ignore => exact nofun

/-- Nothing keeps a balanced word from being drawn if there are indices for all its vertices. -/
theorem obstacle_eq_none_of_fits (balanced : w.Balanced) (inRange : f.InRange)
    (fits : vertices f w ≤ maxIndex) : obstacle f w = none := by
  have indexed (n : Nat) : firstOffence f w ≠ some (.indexOverflow n) := by
    intro first
    obtain ⟨⟨v, s⟩, site, offends⟩ := List.exists_of_findSome?_eq_some first
    obtain ⟨u, rfl⟩ := Word.mem_sites_iff.1 site
    rw [vertices_division] at fits
    have here : vertices f v + symbolVertices f s ≤ maxIndex := by omega
    exact offence_ne_indexOverflow inRange here n offends
  apply obstacle_eq_none_iff.2
  refine ⟨firstOffence_eq_none balanced indexed, ?_⟩
  rw [balanced.tally_eq]

/-- A segment has 36 indices, a flower those of its own. -/
theorem length_indices (f : Flower) (w : Word) :
    (indices f w).length = 36 * w.tally .branch + f.indices.length * w.tally .flower := by
  induction w with
  | nil => rfl
  | cons s w ih =>
    have here : (indices f [s]).length =
        36 * Word.tally .branch [s] + f.indices.length * Word.tally .flower [s] := by
      rw [Word.tally_singleton, Word.tally_singleton]
      simp only [indices, Word.sites, List.map_nil, List.flatMap_singleton, block]
      cases s.action <;> simp [Box.length_indices]
    rw [← List.singleton_append, indices_append, List.length_append, List.length_map, here, ih,
      Word.tally_append, Word.tally_append]
    ring

end PlantGrammar.Layout
