import PlantGrammar.Mesh.Flower

/-!
# Flowers from coordinates

A flower is made of vertices, or of the coordinates of its vertices in a row.  The two ways check what
they are given in different words, but they accept the same flowers, and of these they keep every
coordinate.  What they refuse has the defect that they report (`FlowerDefect.Describes`).

* `Flower.ofFlat_eq_ok_iff`: the flowers that are accepted, with their vertices.
* `Flower.ofFlat_coordinates`: the coordinates of vertices are checked as the vertices are.
* `Flower.accepted_and_kept`: both, with the reasons for what is refused.
-/

namespace PlantGrammar

namespace Flower

/-! ### Coordinates -/

/-- The coordinates of vectors in a row. -/
def coordinates (vs : List Vec3) : List Float32 := vs.flatMap Vec3.toList

theorem length_coordinates (vs : List Vec3) : (coordinates vs).length = 3 * vs.length := by
  induction vs with
  | nil => rfl
  | cons v vs ih =>
    show (v.toList ++ coordinates vs).length = _
    rw [List.length_append, ih, List.length_cons, Nat.mul_succ]
    exact Nat.add_comm 3 _

theorem triples_coordinates (vs : List Vec3) : triples (coordinates vs) = vs := by
  induction vs with
  | nil => rfl
  | cons v vs ih => exact congrArg (v :: ·) ih

theorem eq_triples_of_coordinates_eq {vs : List Vec3} {cs : List Float32}
    (given : coordinates vs = cs) : vs = triples cs := by
  rw [← given, triples_coordinates]

/-- What coordinates and indices must be to make a flower. -/
structure WellFormed (ps ns : List Float32) (is : List UInt32) : Prop where
  positions : ps.length % 3 = 0
  normals : ns.length = ps.length
  indices : is.length % 3 = 0
  inRange : ∀ i ∈ is, i.toNat < ps.length / 3

end Flower

namespace FlowerDefect

/-- The coordinates and indices have the defect, and what it counts is theirs. -/
def Describes (ps ns : List Float32) (is : List UInt32) : FlowerDefect → Prop
  | raggedPositions n => n = ps.length ∧ n % 3 ≠ 0
  | normalCoordinates n p => n = ns.length ∧ p = ps.length ∧ n ≠ p
  | normalCount n v => 3 * n = ns.length ∧ 3 * v = ps.length ∧ n ≠ v
  | raggedIndices n => n = is.length ∧ n % 3 ≠ 0
  | indexOutOfRange i v => v = ps.length / 3 ∧ v ≤ i ∧ ∃ j ∈ is, j.toNat = i

/-- The same defect, found among coordinates. -/
def inCoordinates : FlowerDefect → FlowerDefect
  | normalCount n v => normalCoordinates (3 * n) (3 * v)
  | d => d

variable {ps ns : List Float32} {is : List UInt32} {d : FlowerDefect}

theorem Describes.not_wellFormed (describes : d.Describes ps ns is) :
    ¬ Flower.WellFormed ps ns is := by
  rintro ⟨positions, normals, indices, inRange⟩
  cases d with
  | raggedPositions n =>
    obtain ⟨rfl, ragged⟩ := describes
    exact ragged positions
  | normalCoordinates n p =>
    obtain ⟨rfl, rfl, different⟩ := describes
    exact different normals
  | normalCount n v =>
    obtain ⟨count, vertices, different⟩ := describes
    omega
  | raggedIndices n =>
    obtain ⟨rfl, ragged⟩ := describes
    exact ragged indices
  | indexOutOfRange i v =>
    obtain ⟨rfl, outside, j, mem, rfl⟩ := describes
    exact absurd (inRange j mem) (Nat.not_lt.2 outside)

end FlowerDefect

namespace Flower

variable {ps ns : List Float32} {is : List UInt32} {P N : List Vec3} {f : Flower} {d : FlowerDefect}

/-! ### Flowers that are accepted -/

theorem ofFlat_eq_ok_iff :
    ofFlat ps ns is = .ok f ↔ WellFormed ps ns is ∧ f = ⟨triples ps, triples ns, is⟩ := by
  unfold ofFlat
  by_cases positions : ps.length % 3 = 0
  · by_cases normals : ns.length = ps.length
    · rw [if_neg (by simpa using positions), if_neg (by simpa using normals), make_eq_ok_iff,
        length_triples, length_triples, normals]
      constructor
      · rintro ⟨made, -, indices, inRange⟩
        exact ⟨⟨positions, normals, indices, inRange⟩, made⟩
      · rintro ⟨wellFormed, made⟩
        exact ⟨made, rfl, wellFormed.indices, wellFormed.inRange⟩
    · rw [if_neg (by simpa using positions), if_pos normals]
      exact iff_of_false (by rintro ⟨⟩) fun made => normals made.1.normals
  · rw [if_pos positions]
    exact iff_of_false (by rintro ⟨⟩) fun made => positions made.1.positions

/-- An accepted flower is the only one with these coordinates. -/
theorem ofFlat_eq_ok_iff_coordinates :
    ofFlat ps ns is = .ok f ↔ WellFormed ps ns is ∧
      coordinates f.positions = ps ∧ coordinates f.normals = ns ∧ f.indices = is := by
  rw [ofFlat_eq_ok_iff]
  refine and_congr_right fun wellFormed => ?_
  constructor
  · rintro rfl
    have normals : ns.length % 3 = 0 := wellFormed.normals ▸ wellFormed.positions
    exact ⟨flatMap_toList_triples wellFormed.positions, flatMap_toList_triples normals, rfl⟩
  · rintro ⟨positions, normals, rfl⟩
    rw [← eq_triples_of_coordinates_eq positions, ← eq_triples_of_coordinates_eq normals]

theorem vertexCount_of_ofFlat (made : ofFlat ps ns is = .ok f) : f.vertexCount = ps.length / 3 := by
  obtain ⟨-, rfl⟩ := ofFlat_eq_ok_iff.1 made
  exact length_triples ps

/-! ### Defects -/

theorem describes_of_make (refused : make P N is = .error d) :
    d.Describes (coordinates P) (coordinates N) is := by
  unfold make at refused
  split at refused
  · next different =>
    cases refused
    exact ⟨(length_coordinates N).symm, (length_coordinates P).symm, different⟩
  · split at refused
    · next ragged =>
      cases refused
      exact ⟨rfl, ragged⟩
    · split at refused
      · next i found =>
        cases refused
        have outside : P.length ≤ i.toNat := by simpa using List.find?_some found
        have vertices : P.length = (coordinates P).length / 3 := by
          rw [length_coordinates, Nat.mul_div_cancel_left _ (by decide)]
        exact ⟨vertices, outside, i, List.mem_of_find?_eq_some found, rfl⟩
      · cases refused

/-- Coordinates in threes, as many for the normals as for the positions, are checked as vertices. -/
theorem ofFlat_coordinates (P N : List Vec3) (is : List UInt32) :
    ofFlat (coordinates P) (coordinates N) is = (make P N is).mapError .inCoordinates := by
  have whole : ¬ (coordinates P).length % 3 ≠ 0 := by
    rw [length_coordinates, Nat.mul_mod_right]
    exact not_not_intro rfl
  rw [ofFlat, if_neg whole, triples_coordinates, triples_coordinates, length_coordinates,
    length_coordinates]
  by_cases same : N.length = P.length
  · rw [if_neg (by omega)]
    cases made : make P N is with
    | ok f => rfl
    | error d =>
      have describes := describes_of_make made
      cases d with
      | normalCount n v =>
        obtain ⟨normals, positions, different⟩ := describes
        rw [length_coordinates] at normals positions
        omega
      | raggedPositions | normalCoordinates | raggedIndices | indexOutOfRange => rfl
  · rw [if_pos (by omega), make, if_pos same]
    rfl

theorem describes_of_ofFlat (refused : ofFlat ps ns is = .error d) : d.Describes ps ns is := by
  by_cases positions : ps.length % 3 = 0
  · by_cases normals : ns.length = ps.length
    · have whole : ns.length % 3 = 0 := normals ▸ positions
      rw [ofFlat, if_neg (by simpa using positions), if_neg (by simpa using normals)] at refused
      have describes := describes_of_make refused
      rwa [coordinates, coordinates, flatMap_toList_triples positions,
        flatMap_toList_triples whole] at describes
    · rw [ofFlat, if_neg (by simpa using positions), if_pos normals] at refused
      cases refused
      exact ⟨rfl, rfl, normals⟩
  · rw [ofFlat, if_pos positions] at refused
    cases refused
    exact ⟨rfl, positions⟩

/-- Coordinates make a flower exactly if they are well formed, and then the flower consists of them,
coordinate by coordinate and index by index.  All others are refused, for a defect that they have.
The coordinates of vertices make the flower that the vertices make, and are refused if these are. -/
theorem accepted_and_kept :
    (∀ (ps ns : List Float32) (is : List UInt32),
      ((∃ f, ofFlat ps ns is = .ok f) ↔ WellFormed ps ns is) ∧
      (∀ f, ofFlat ps ns is = .ok f ↔ WellFormed ps ns is ∧ coordinates f.positions = ps ∧
        coordinates f.normals = ns ∧ f.indices = is ∧ f.vertexCount = ps.length / 3) ∧
      ((∃ d, ofFlat ps ns is = .error d ∧ d.Describes ps ns is) ↔ ¬ WellFormed ps ns is)) ∧
    ∀ (P N : List Vec3) (is : List UInt32),
      (∃ f, make P N is = .ok f ∧ ofFlat (coordinates P) (coordinates N) is = .ok f) ∨
        ∃ d, make P N is = .error d ∧
          ofFlat (coordinates P) (coordinates N) is = .error d.inCoordinates := by
  refine ⟨fun ps ns is => ⟨⟨?_, ?_⟩, fun f => ⟨?_, ?_⟩, ?_, ?_⟩, fun P N is => ?_⟩
  · rintro ⟨f, made⟩
    exact (ofFlat_eq_ok_iff.1 made).1
  · intro wellFormed
    exact ⟨_, ofFlat_eq_ok_iff.2 ⟨wellFormed, rfl⟩⟩
  · intro made
    obtain ⟨wellFormed, positions, normals, indices⟩ := ofFlat_eq_ok_iff_coordinates.1 made
    exact ⟨wellFormed, positions, normals, indices, vertexCount_of_ofFlat made⟩
  · rintro ⟨wellFormed, positions, normals, indices, -⟩
    exact ofFlat_eq_ok_iff_coordinates.2 ⟨wellFormed, positions, normals, indices⟩
  · rintro ⟨d, -, describes⟩
    exact describes.not_wellFormed
  · intro malformed
    cases made : ofFlat ps ns is with
    | ok f => exact absurd (ofFlat_eq_ok_iff.1 made).1 malformed
    | error d => exact ⟨d, rfl, describes_of_ofFlat made⟩
  · rw [ofFlat_coordinates]
    cases made : make P N is with
    | ok f => exact .inl ⟨f, rfl, rfl⟩
    | error d => exact .inr ⟨d, rfl, rfl⟩

/-- Nine coordinates are three vertices, of which none has the index 3. -/
example : ofFlat (List.replicate 9 0) (List.replicate 9 0) [0, 1, 3] = .error (.indexOutOfRange 3 3) := rfl

end Flower

end PlantGrammar
