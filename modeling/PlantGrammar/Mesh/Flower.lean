import PlantGrammar.GrowthError
import PlantGrammar.Mesh.Block

/-!
# Flowers

The mesh that is drawn at every flower symbol. `Flower.make` checks its parts and `Flower.ofFlat`
reads it from coordinates; a flower read from a file is not checked.
-/

namespace PlantGrammar

/-- A triangle mesh with a normal for every vertex. -/
structure Flower where
  positions : List Vec3
  normals : List Vec3
  indices : List UInt32
  deriving DecidableEq

namespace Flower

/-- The mesh without vertices. -/
def empty : Flower := ⟨[], [], []⟩

def vertexCount (f : Flower) : Nat := f.positions.length

/-- The flower with the given parts, if there are as many normals as vertices, the indices come in
threes and each names a vertex. Of several defects the first in this order is reported. -/
def make (positions normals : List Vec3) (indices : List UInt32) : Except FlowerDefect Flower :=
  if normals.length ≠ positions.length then
    .error (.normalCount normals.length positions.length)
  else if indices.length % 3 ≠ 0 then
    .error (.raggedIndices indices.length)
  else
    match indices.find? fun i => positions.length ≤ i.toNat with
    | some i => .error (.indexOutOfRange i.toNat positions.length)
    | none => .ok ⟨positions, normals, indices⟩

/-- Consecutive coordinates taken in threes; one or two left over are dropped. -/
def triples : List Float32 → List Vec3
  | x :: y :: z :: cs => ⟨x, y, z⟩ :: triples cs
  | _ => []

/-- The flower with the given coordinates. -/
def ofFlat (positions normals : List Float32) (indices : List UInt32) :
    Except FlowerDefect Flower :=
  if positions.length % 3 ≠ 0 then
    .error (.raggedPositions positions.length)
  else if normals.length ≠ positions.length then
    .error (.normalCoordinates normals.length positions.length)
  else
    make (triples positions) (triples normals) indices

/-- The flower as a block. A position without a normal, or a normal without a position, which only
an unchecked flower has, makes no vertex. -/
def block (f : Flower) : Block := ⟨f.positions.zipWith Vertex.mk f.normals, f.indices⟩

/-- Nothing is lost when coordinates that come in threes are taken in threes. -/
theorem flatMap_toList_triples {cs : List Float32} (h : cs.length % 3 = 0) :
    (triples cs).flatMap Vec3.toList = cs := by
  fun_induction triples cs with
  | case1 x y z cs ih =>
    rw [List.flatMap_cons, ih (by simp only [List.length_cons] at h; omega)]
    rfl
  | case2 cs hcs =>
    match cs, hcs with
    | [], _ => rfl
    | [_], _ => simp at h
    | [_, _], _ => simp at h
    | _ :: _ :: _ :: _, hcs => exact absurd rfl (hcs _ _ _ _)

theorem length_triples (cs : List Float32) : (triples cs).length = cs.length / 3 := by
  fun_induction triples cs with
  | case1 x y z cs ih =>
    simp only [List.length_cons, ih]
    omega
  | case2 cs hcs =>
    have : cs.length < 3 := by
      match cs, hcs with
      | [], _ => decide
      | [_], _ => exact (by decide : 1 < 3)
      | [_, _], _ => exact (by decide : 2 < 3)
      | _ :: _ :: _ :: _, hcs => exact absurd rfl (hcs _ _ _ _)
    rw [List.length_nil]
    omega

theorem make_eq_ok_iff {ps ns : List Vec3} {is : List UInt32} {f : Flower} :
    make ps ns is = .ok f ↔ f = ⟨ps, ns, is⟩ ∧ ns.length = ps.length ∧ is.length % 3 = 0 ∧
      ∀ i ∈ is, i.toNat < ps.length := by
  unfold make
  split
  · next h => simp [h]
  · next h =>
    split
    · next h' => simp [h']
    · next h' =>
      split
      · next i hi =>
        have := List.find?_some hi
        simp only [decide_eq_true_eq] at this
        simp only [reduceCtorEq, false_iff, not_and]
        intro _ _ _ hall
        exact absurd (hall i (List.mem_of_find?_eq_some hi)) (by omega)
      · next hi =>
        simp only [List.find?_eq_none, decide_eq_true_eq, Nat.not_le] at hi
        simp only [ne_eq, Decidable.not_not] at h h'
        exact ⟨fun e => by cases e; exact ⟨rfl, h, h', hi⟩, fun e => by rw [e.1]⟩

end Flower

end PlantGrammar
