import PlantGrammar.Proofs.Drawing.Failures

/-!
# Overflows

Indices are checked in two places: the number of vertices must be an index, and so must every shifted
index.  Indices are pushed all or none, and the shift is exact.  Whichever check fails, the number of
vertices that is reported is greater than the greatest index.

* `MeshBuilder.maxIndex_lt_of_use`: what is reported for anything that is done to a mesh.
* `Layout.maxIndex_lt_of_obstacle`: what is reported for a word.
-/

namespace PlantGrammar

namespace MeshBuilder

/-- Something that is done to a mesh for which there may be too few indices: counting its vertices,
pushing indices, drawing a segment or a flower.  Turtle, random source, journal and habit may be
others for every use. -/
inductive Use where
  | count
  | indices (base : UInt32) (is : List UInt32)
  | segment {σ : Type} [RandomSource σ] (t : Turtle) (source : σ) (j : Journal) (h : Habit)
  | flower (t : Turtle) (j : Journal) (h : Habit) (f : Flower)

/-- The mesh after a use, and why the use failed if it did. -/
def use (b : MeshBuilder) : Use → MeshBuilder × Option GrowthError
  | .count =>
    match b.nextIndex with
    | .ok _ => (b, none)
    | .error e => (b, some e)
  | .indices base is => b.pushIndices base is
  | @Use.segment _ _ t source j h =>
    let o := Canvas.branch ⟨t, b, source, j⟩ h
    (o.canvas.builder, o.failure)
  | .flower t j h f =>
    let o := Canvas.flower ⟨t, b, (), j⟩ h f
    (o.canvas.builder, o.failure)

variable {b : MeshBuilder} {base : UInt32} {is : List UInt32} {n : Nat}

/-- The greatest of some indices is one of them. -/
theorem exists_toNat_eq_greatest (some_index : is ≠ []) : ∃ m ∈ is, m.toNat = greatest is := by
  have le : ∀ i ∈ is, i.toNat ≤ greatest is := greatest_le_iff.1 (Nat.le_refl _)
  apply Classical.byContradiction
  intro missing
  -- were it none of them, a smaller number would bound them all
  have below : greatest is ≤ greatest is - 1 := by
    apply greatest_le_iff.2
    intro i mem
    have other : i.toNat ≠ greatest is := fun same => missing ⟨i, mem, same⟩
    have := le i mem
    omega
  obtain ⟨i, mem⟩ := List.exists_mem_of_ne_nil is some_index
  apply missing
  refine ⟨i, mem, ?_⟩
  have := le i mem
  omega

/-! ### Reports -/

theorem maxIndex_lt_of_overflow {base largest : Nat}
    (failed : overflow base largest = some (.indexOverflow n)) : maxIndex < n := by
  unfold overflow at failed
  by_cases full : maxIndex < base
  · rw [if_pos full] at failed
    cases failed
    exact full
  · rw [if_neg full] at failed
    by_cases large : maxIndex < base + largest
    · rw [if_pos large] at failed
      cases failed
      exact Nat.lt_succ_of_lt large
    · rw [if_neg large] at failed
      cases failed

theorem maxIndex_lt_of_append {block : Block}
    (failed : (b.append block).2 = some (.indexOverflow n)) : maxIndex < n := by
  rw [failure_append] at failed
  exact maxIndex_lt_of_overflow failed

theorem maxIndex_lt_of_nextIndex (failed : b.nextIndex = .error (.indexOverflow n)) :
    maxIndex < n := by
  unfold nextIndex at failed
  by_cases room : b.size ≤ maxIndex
  · rw [if_pos room] at failed
    cases failed
  · rw [if_neg room] at failed
    cases failed
    exact Nat.lt_of_not_le room

/-- Too many vertices are reported only where there are too many. -/
theorem maxIndex_lt_of_use {a : Use} (failed : (b.use a).2 = some (.indexOverflow n)) :
    maxIndex < n := by
  cases a with
  | count =>
    rw [use] at failed
    cases next : b.nextIndex with
    | ok i =>
      rw [next] at failed
      cases failed
    | error e =>
      rw [next] at failed
      cases failed
      exact maxIndex_lt_of_nextIndex next
  | indices base is =>
    by_cases fits : base.toNat + greatest is ≤ maxIndex
    · rw [use, pushIndices_of_fits fits] at failed
      cases failed
    · have large := Nat.lt_of_not_le fits
      rw [use, pushIndices_of_large large] at failed
      cases failed
      exact Nat.lt_succ_of_lt large
  | segment t source j h =>
    obtain ⟨_ | ⟨p, ps⟩⟩ := t
    · cases failed
    · rw [use, Canvas.failure_branch rfl h] at failed
      exact maxIndex_lt_of_append failed
  | flower t j h f =>
    obtain ⟨_ | ⟨p, ps⟩⟩ := t
    · cases failed
    · rw [use, Canvas.failure_flower rfl h f] at failed
      exact maxIndex_lt_of_append failed

end MeshBuilder

namespace Layout

open MeshBuilder

variable {f : Flower} {v w : Word} {n : Nat}

theorem maxIndex_lt_of_offence {s : Symbol} (offends : offence f v s = some (.indexOverflow n)) :
    maxIndex < n := by
  unfold offence at offends
  cases act : s.action with
  | pop =>
    simp [act] at offends
  | branch | flower =>
    rw [act] at offends
    exact maxIndex_lt_of_overflow offends
  | push | turn | ignore =>
    rw [act] at offends
    cases offends

theorem maxIndex_lt_of_obstacle (obstructed : obstacle f w = some (.indexOverflow n)) :
    maxIndex < n := by
  unfold obstacle at obstructed
  cases first : firstOffence f w with
  | some e =>
    simp only [first, Option.some.injEq] at obstructed
    subst obstructed
    obtain ⟨⟨v, s⟩, -, offends⟩ := List.exists_of_findSome?_eq_some first
    exact maxIndex_lt_of_offence offends
  | none =>
    simp [first] at obstructed

end Layout

open Layout in
/-- Indices are pushed exactly if each of them, increased by the base, is at most the greatest index.
Then the sums are added in order and nothing else changes; otherwise nothing changes at all, and the
number of vertices that is reported is one more than the greatest of the sums.  Wherever too many
vertices are reported, in pushing indices, in counting and drawing or for a whole word, there are more
than the greatest index. -/
theorem MeshBuilder.exact_indices_and_reports :
    (∀ (b : MeshBuilder) (base : UInt32) (is : List UInt32),
      let r := b.pushIndices base is
      (r.2 = none ↔ ∀ i ∈ is, base.toNat + i.toNat ≤ maxIndex) ∧
      (r.2 = none → r.1.positions = b.positions ∧ r.1.normals = b.normals ∧
        ∃ added : List UInt32, r.1.indices.toList = b.indices.toList ++ added ∧
          added.map UInt32.toNat = is.map fun i => base.toNat + i.toNat) ∧
      ∀ e, r.2 = some e → r.1 = b ∧ ∃ m ∈ is, (∀ i ∈ is, i.toNat ≤ m.toNat) ∧
        e = .indexOverflow (base.toNat + m.toNat + 1)) ∧
    (∀ (b : MeshBuilder) (a : Use) (n : Nat), (b.use a).2 = some (.indexOverflow n) →
      maxIndex < n) ∧
    ∀ {σ : Type} [RandomSource σ] (sp : Species) (w : Word) (f : Flower) (source : σ) (j : Journal)
      (n : Nat), (sp.build w f source j).mesh = .error (.indexOverflow n) → maxIndex < n := by
  refine ⟨fun b base is => ?_, fun b a n failed => maxIndex_lt_of_use failed,
    fun sp w f source j n failed => ?_⟩
  · have room : base.toNat ≤ maxIndex := Nat.le_of_lt_succ base.toNat_lt
    rw [fits_iff room]
    by_cases fits : base.toNat + greatest is ≤ maxIndex
    · rw [pushIndices_of_fits fits]
      refine ⟨iff_of_true rfl fits, fun _ => ⟨rfl, rfl, is.map (base + ·), ?_, ?_⟩,
        fun e failed => ?_⟩
      · rw [Array.toList_append]
      · exact toNat_shift ((fits_iff room).2 fits)
      · cases failed
    · have some_index : is ≠ [] := by
        rintro rfl
        exact fits room
      obtain ⟨m, mem, top⟩ := exists_toNat_eq_greatest some_index
      rw [pushIndices_of_large (Nat.lt_of_not_le fits)]
      refine ⟨iff_of_false (Option.some_ne_none _) fits, fun ok => ?_, fun e failed => ?_⟩
      · cases ok
      · cases failed
        rw [← top]
        exact ⟨rfl, m, mem, greatest_le_iff.1 (Nat.le_of_eq top.symm), rfl⟩
  · exact maxIndex_lt_of_obstacle (Species.mesh_build_eq_error_iff.1 failed)

/-- The greatest index can still be pushed.  With one more nothing is, though the first index would fit;
and a word is not drawn whose flower has no room behind a segment. -/
theorem MeshBuilder.exact_indices_and_reports_of_one_too_many :
    let b : MeshBuilder := ⟨#[7], #[], #[]⟩
    let f : Flower := ⟨[.zero], [.zero], [0xFFFFFFFF]⟩
    let full := b.pushIndices 0xFFFFFFF0 [0xF, 0]
    let large := b.pushIndices 0xFFFFFFF0 [0xF, 0x10]
    let built := ({} : Species).build [.internode, .flower] f (⟨[], 0⟩ : Scripted) (.start none)
    full.2 = none ∧ (∃ added : List UInt32, full.1.indices.toList = 7 :: added ∧
      added.map UInt32.toNat = [0xFFFFFFFF, 0xFFFFFFF0]) ∧
    large.2 = some (.indexOverflow 0x100000001) ∧ large.1 = b ∧ maxIndex < 0x100000001 ∧
    built.mesh = .error (.indexOverflow 0x100000018) ∧ maxIndex < 0x100000018 := by
  intro b f full large built
  obtain ⟨pushing, uses, builds⟩ := exact_indices_and_reports
  have pushed : full.2 = none := by decide
  have refused : large.2 = some (.indexOverflow 0x100000001) := by decide
  have failed : built.mesh = .error (.indexOverflow 0x100000018) := by
    apply Species.mesh_build_eq_error_iff.2
    decide
  obtain ⟨-, added, -⟩ := pushing b 0xFFFFFFF0 [0xF, 0]
  obtain ⟨-, -, unchanged⟩ := pushing b 0xFFFFFFF0 [0xF, 0x10]
  exact ⟨pushed, (added pushed).2.2, refused, (unchanged _ refused).1,
    uses b (.indices 0xFFFFFFF0 [0xF, 0x10]) _ refused, failed,
    builds _ _ _ _ _ _ failed⟩

end PlantGrammar
