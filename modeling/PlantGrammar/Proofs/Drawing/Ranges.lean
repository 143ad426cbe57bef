import PlantGrammar.Format.Meshes
import PlantGrammar.Json.Reader
import PlantGrammar.Proofs.Drawing.Branches
import PlantGrammar.Proofs.Mesh.Soundness

/-!
# Indices in range

A flower that was checked names only vertices of its own, and then so does every mesh in which it is
drawn.  A flower that is read from a document is not checked.  Whether it can do harm depends on its
indices alone (`Flower.InRange`), and one that can do harm does so wherever it is drawn first.

* `Layout.lt_of_mem_indices`: with a flower in range, every index names a vertex of the mesh.
* `Species.build_flower_alone`: the mesh of a flower that stands alone.
* `Flower.inRange_iff`: a flower is in range exactly if all meshes with it are.
-/

namespace PlantGrammar

namespace Flower

variable {f : Flower}

/-- Every index names a vertex that is drawn. -/
def InRange (f : Flower) : Prop := ∀ i ∈ f.indices, i.toNat < Layout.flowerVertices f

instance : DecidablePred InRange := fun f =>
  inferInstanceAs (Decidable (∀ i ∈ f.indices, i.toNat < Layout.flowerVertices f))

theorem Checked.inRange (checked : f.Checked) : f.InRange := by
  intro i mem
  have named : i.toNat < (f.positions.zipWith Vertex.mk f.normals).length :=
    checked.closed_block.index_lt i mem
  rw [List.length_zipWith] at named
  exact named

end Flower

namespace Layout

variable {f : Flower} {n : Nat}

/-- What is drawn for a symbol names vertices that are drawn for it. -/
theorem lt_of_mem_block (inRange : f.InRange) {base : Nat} {s : Symbol} (mem : n ∈ block f base s) :
    n < base + symbolVertices f s := by
  unfold block at mem
  unfold symbolVertices
  cases act : s.action with
  | branch =>
    rw [act] at mem
    obtain ⟨i, here, rfl⟩ := List.mem_map.1 mem
    exact Nat.add_lt_add_left (Box.lt_of_mem_indices here) base
  | flower =>
    rw [act] at mem
    obtain ⟨i, here, rfl⟩ := List.mem_map.1 mem
    exact Nat.add_lt_add_left (inRange i here) base
  | push | pop | turn | ignore =>
    rw [act] at mem
    cases mem

theorem lt_of_mem_indices (inRange : f.InRange) {w : Word} (mem : n ∈ indices f w) :
    n < vertices f w := by
  obtain ⟨⟨v, s⟩, site, here⟩ := List.mem_flatMap.1 mem
  obtain ⟨u, rfl⟩ := Word.mem_sites_iff.1 site
  have block : n < vertices f v + symbolVertices f s := lt_of_mem_block inRange here
  rw [vertices_division]
  omega

end Layout

namespace Species

open Layout MeshBuilder

variable {σ : Type} [RandomSource σ]

/-- A flower that stands alone can be drawn, whatever its indices, and they stay what they are. -/
theorem build_flower_alone (sp : Species) (f : Flower) (source : σ) (j : Journal) :
    ∃ m, (sp.build [.flower] f source j).mesh = .ok m ∧ m.indices.toList = f.indices ∧
      m.vertexCount = flowerVertices f := by
  have fits : greatest f.indices ≤ maxIndex := by
    apply greatest_le_iff.2
    intro i _
    exact Nat.le_of_lt_succ i.toNat_lt
  have free : obstacle f [.flower] = none := by
    have first : firstOffence f [.flower] = none := by
      have here : offence f [] .flower = none := by
        apply overflow_eq_none_iff.2
        rw [vertices, Word.tally_nil, Word.tally_nil]
        omega
      rw [firstOffence, Word.sites, List.findSome?_cons, here]
      rfl
    exact obstacle_eq_none_iff.2 ⟨first, Nat.zero_le _⟩
  obtain ⟨m, drawn⟩ := exists_mesh_build free sp source j
  obtain ⟨c, laid_out, rfl⟩ := drawn_of_mesh_build drawn
  refine ⟨_, drawn, ?_, ?_⟩
  · have unshifted : Layout.indices f [.flower] = f.indices.map UInt32.toNat := by
      simp [Layout.indices, Word.sites, block, Symbol.action, vertices]
    apply (List.map_inj_right fun _ _ => UInt32.toNat.inj).1
    exact laid_out.indices.trans unshifted
  · have alone : vertices f [.flower] = flowerVertices f := by
      simp [vertices, Symbol.action]
    exact laid_out.size.trans alone

end Species

/-- A checked flower is in range.  A flower that is in range, wherever it comes from, makes only
meshes whose indices name their vertices, and any other flower makes a mesh with an index that names
none. -/
theorem Flower.inRange_iff (f : Flower) :
    (f.Checked → f.InRange) ∧
    (f.InRange ↔
      ∀ {σ : Type} [RandomSource σ] (sp : Species) (w : Word) (source : σ) (j : Journal) (m : Mesh),
        (sp.build w f source j).mesh = .ok m → ∀ i ∈ m.indices, i.toNat < m.vertexCount) := by
  refine ⟨fun checked => checked.inRange, ⟨fun inRange => ?_, fun all => ?_⟩⟩
  · intro σ _ sp w source j m drawn i mem
    obtain ⟨c, laid_out, rfl⟩ := Species.drawn_of_mesh_build drawn
    have listed : i.toNat ∈ Layout.indices f w := by
      rw [← laid_out.indices]
      exact List.mem_map_of_mem (Array.mem_toList_iff.2 mem)
    have count : c.builder.finish.vertexCount = Layout.vertices f w := laid_out.size
    rw [count]
    exact Layout.lt_of_mem_indices inRange listed
  · intro i mem
    obtain ⟨m, drawn, indices, count⟩ :=
      Species.build_flower_alone {} f (⟨[], 0⟩ : Scripted) (.start none)
    rw [← count]
    rw [← indices] at mem
    exact all _ _ _ _ m drawn i (Array.mem_toList_iff.1 mem)

theorem Flower.inRange_iff_of_make :
    Flower.make [.zero] [.zero] [0, 0, 0] = .ok ⟨[.zero], [.zero], [0, 0, 0]⟩ ∧
    Flower.InRange ⟨[.zero], [.zero], [0, 0, 0]⟩ := by
  have made : Flower.make [.zero] [.zero] [0, 0, 0] = .ok ⟨[.zero], [.zero], [0, 0, 0]⟩ := rfl
  exact ⟨made, (inRange_iff _).1 (.make made)⟩

/-- A document with one vertex and indices for more is read as a flower, and drawing it makes a mesh
with indices that name no vertex. -/
theorem Flower.out_of_range_of_document :
    ∃ v f m, Json.ofText? "\x7b\"positions\":[[0,0,0]],\"normals\":[[0,0,1]],\"indices\":[7,7,7]\x7d" =
        some v ∧ Flower.ofJson? v = some f ∧
      (({} : Species).build [.flower] f (⟨[], 0⟩ : Scripted) (.start none)).mesh = .ok m ∧
      ∃ i ∈ m.indices, m.vertexCount ≤ i.toNat := by
  have read : (Json.ofText?
      "\x7b\"positions\":[[0,0,0]],\"normals\":[[0,0,1]],\"indices\":[7,7,7]\x7d").bind
        Flower.ofJson? = some ⟨[.zero], [.unitZ], [7, 7, 7]⟩ := by
    decide +kernel
  obtain ⟨v, text, made⟩ := Option.bind_eq_some_iff.1 read
  obtain ⟨m, drawn, indices, count⟩ :=
    Species.build_flower_alone {} ⟨[.zero], [.unitZ], [7, 7, 7]⟩ (⟨[], 0⟩ : Scripted) (.start none)
  refine ⟨v, _, m, text, made, drawn, 7, ?_, ?_⟩
  · rw [← Array.mem_toList_iff, indices]
    exact List.mem_cons_self
  · rw [count]
    decide

end PlantGrammar
