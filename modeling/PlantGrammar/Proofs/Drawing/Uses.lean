import PlantGrammar.Format.Geometry
import PlantGrammar.Json.Reader
import PlantGrammar.Proofs.Drawing.Acts
import PlantGrammar.Proofs.Format.Values
import PlantGrammar.Proofs.Mesh.Appending

/-!
# Uses of a turtle

A turtle that has a pose keeps one, whatever is done with it, and then the only thing that can be
wrong with the turtle is that a branch is closed which was not opened.  The turtle at the root has a
pose.  A turtle that is read from a document has one if the document gives one, which is not
checked.

* `Turtle.depth_run`: the depth after any uses, from the depth before them.
* `Turtle.ready_iff`: what can be done with a turtle, by its depth.
* `Turtle.always_ready`: the turtle at the root, and the turtles of documents.
-/

namespace PlantGrammar

/-- Something that is done with a turtle.  Segments and flowers are drawn to a mesh, with a journal
and a habit, segments also with a random source, all of which may be others for every use. -/
inductive Turtle.Use where
  | push
  | pop (position : Nat)
  | look
  | change (f : Pose → Pose)
  | segment {σ : Type} [RandomSource σ] (b : MeshBuilder) (source : σ) (j : Journal) (h : Habit)
  | flower (b : MeshBuilder) (j : Journal) (h : Habit) (f : Flower)

namespace Turtle

/-- The outcome of something that needs a pose: without one the turtle stays as it is. -/
def orEmpty (t : Turtle) : Option Turtle → Turtle × Option GrowthError
  | none => (t, some .emptyTurtle)
  | some u => (u, none)

/-- The turtle after a use, and why the use failed if it did. -/
def use (t : Turtle) : Use → Turtle × Option GrowthError
  | .push => t.orEmpty t.push?
  | .pop i =>
    match t.pop i with
    | .ok (_, u) => (u, none)
    | .error e => (t, some e)
  | .look => t.orEmpty (t.current?.map fun _ => t)
  | .change f => t.orEmpty (t.modify? f)
  | @Use.segment _ _ b source j h =>
    let o := Canvas.branch ⟨t, b, source, j⟩ h
    (o.canvas.turtle, o.failure)
  | .flower b j h f =>
    let o := Canvas.flower ⟨t, b, (), j⟩ h f
    (o.canvas.turtle, o.failure)

/-- The turtle after uses in order, whether or not they fail. -/
def run (t : Turtle) (uses : List Use) : Turtle := uses.foldl (fun t a => (t.use a).1) t

/-- The depth after a use of a turtle that has a pose. -/
def Use.depth (n : Nat) : Use → Nat
  | .push => n + 1
  | .pop _ => if n = 1 then 1 else n - 1
  | _ => n

variable {t : Turtle}

/-! ### Closing a branch -/

theorem use_pop_of_depth_le (root : t.depth ≤ 1) (i : Nat) :
    t.use (.pop i) = (t, some (.stackUnderflow i 0)) := by
  have refused : t.pop i = .error (.stackUnderflow i 0) := pop_eq_error_iff.2 ⟨root, rfl⟩
  simp only [use, refused]

theorem use_pop_of_lt_depth (branch : 1 < t.depth) (i : Nat) :
    ∃ u, t.use (.pop i) = (u, none) ∧ t.depth = u.depth + 1 := by
  cases popped : t.pop i with
  | error e =>
    obtain ⟨root, -⟩ := pop_eq_error_iff.1 popped
    exact absurd root (Nat.not_le_of_lt branch)
  | ok r =>
    refine ⟨r.2, ?_, depth_of_pop popped⟩
    simp only [use, popped]

/-! ### With a pose -/

theorem Use.depth_pos {n : Nat} (pos : 0 < n) (a : Use) : 0 < a.depth n := by
  cases a with
  | push => exact Nat.succ_pos n
  | pop i =>
    rw [depth]
    split <;> omega
  | look | change | segment | flower => exact pos

theorem exists_poses (pos : 0 < t.depth) : ∃ p ps, t.poses = p :: ps :=
  List.exists_cons_of_length_pos pos

theorem depth_use (pos : 0 < t.depth) (a : Use) : (t.use a).1.depth = a.depth t.depth := by
  obtain ⟨p, ps, poses⟩ := exists_poses pos
  cases a with
  | push => simp only [use, push?, poses, orEmpty, Use.depth, depth, List.length_cons]
  | pop i =>
    by_cases root : t.depth ≤ 1
    · have one : t.depth = 1 := Nat.le_antisymm root pos
      rw [use_pop_of_depth_le root, Use.depth, if_pos one]
      exact one
    · obtain ⟨u, closed, below⟩ := use_pop_of_lt_depth (Nat.lt_of_not_le root) i
      rw [closed, Use.depth, if_neg (by omega), below]
      rfl
  | look => simp only [use, current?, poses, List.head?_cons, Option.map_some, orEmpty, Use.depth]
  | change f => simp only [use, modify?, poses, orEmpty, Use.depth, depth, List.length_cons]
  | segment b source j h =>
    exact Canvas.depth_branch (c := ⟨t, b, source, j⟩) poses h
  | flower b j h f =>
    exact congrArg depth (Canvas.turtle_flower (c := ⟨t, b, (), j⟩) poses h f)

/-- A use of a turtle with a pose finds it.  Segments and flowers can still fail, for want of
indices. -/
theorem use_posed (pos : 0 < t.depth) (a : Use) : (t.use a).2 ≠ some .emptyTurtle := by
  have indexed (b : MeshBuilder) (block : Block) : (b.append block).2 ≠ some .emptyTurtle := by
    rw [MeshBuilder.failure_append, MeshBuilder.overflow]
    split
    · simp
    · split <;> simp
  obtain ⟨p, ps, poses⟩ := exists_poses pos
  cases a with
  | push => simp [use, push?, poses, orEmpty]
  | pop i =>
    by_cases root : t.depth ≤ 1
    · simp [use_pop_of_depth_le root]
    · obtain ⟨u, closed, -⟩ := use_pop_of_lt_depth (Nat.lt_of_not_le root) i
      simp [closed]
  | look => simp [use, current?, poses, orEmpty]
  | change f => simp [use, modify?, poses, orEmpty]
  | segment b source j h =>
    have failure := Canvas.failure_branch (c := ⟨t, b, source, j⟩) poses h
    rw [use, failure]
    exact indexed _ _
  | flower b j h f =>
    have failure := Canvas.failure_flower (c := ⟨t, b, (), j⟩) poses h f
    rw [use, failure]
    exact indexed _ _

/-- The depth after any uses does not depend on the poses, nor on what is drawn. -/
theorem depth_run (pos : 0 < t.depth) (uses : List Use) :
    0 < (t.run uses).depth ∧ (t.run uses).depth = uses.foldl Use.depth t.depth := by
  induction uses generalizing t with
  | nil => exact ⟨pos, rfl⟩
  | cons a uses ih =>
    have here : (t.use a).1.depth = a.depth t.depth := depth_use pos a
    have still : 0 < (t.use a).1.depth := here ▸ a.depth_pos pos
    rw [List.foldl_cons, ← here]
    exact ih still

/-! ### Without a pose -/

/-- Nothing can be done with a turtle without a pose. -/
theorem use_of_empty (none_left : t.depth = 0) (a : Use) :
    (t.use a).1 = t ∧ (t.use a).2 ≠ none ∧ ((∀ i, a ≠ .pop i) → (t.use a).2 = some .emptyTurtle) := by
  have poses : t.poses = [] := List.length_eq_zero_iff.1 none_left
  cases a with
  | push => simp [use, push?, poses, orEmpty]
  | pop i => simp [use_pop_of_depth_le (by omega : t.depth ≤ 1)]
  | look => simp [use, current?, poses, orEmpty]
  | change f => simp [use, modify?, poses, orEmpty]
  | segment b source j h =>
    simp [use, Canvas.branch, Canvas.draw, Canvas.fail, current?, poses]
  | flower b j h f => simp [use, Canvas.flower, Canvas.fail, current?, poses]

theorem run_of_empty (none_left : t.depth = 0) (uses : List Use) : t.run uses = t := by
  induction uses with
  | nil => rfl
  | cons a uses ih =>
    rw [run, List.foldl_cons, (use_of_empty none_left a).1]
    exact ih

/-! ### Readiness -/

/-- There is a pose, every use finds it, and exactly at the root no branch can be closed, which is
reported and changes nothing. -/
structure Ready (t : Turtle) : Prop where
  depth_pos : 0 < t.depth
  posed : ∀ a, (t.use a).2 ≠ some .emptyTurtle
  pop_fails_iff : ∀ i, (t.use (.pop i)).2 ≠ none ↔ t.depth = 1
  pop_root : t.depth = 1 → ∀ i, t.use (.pop i) = (t, some (.stackUnderflow i 0))

theorem ready_iff : t.Ready ↔ 0 < t.depth := by
  refine ⟨Ready.depth_pos, fun pos => ?_⟩
  refine ⟨pos, use_posed pos, fun i => ⟨fun fails => ?_, fun root => ?_⟩,
    fun root => use_pop_of_depth_le (Nat.le_of_eq root)⟩
  · by_cases root : t.depth ≤ 1
    · exact Nat.le_antisymm root pos
    · obtain ⟨u, closed, -⟩ := use_pop_of_lt_depth (Nat.lt_of_not_le root) i
      rw [closed] at fails
      exact absurd rfl fails
  · rw [use_pop_of_depth_le (Nat.le_of_eq root)]
    exact Option.some_ne_none _

theorem ready_run_iff : (∀ uses, (t.run uses).Ready) ↔ 0 < t.depth :=
  ⟨fun ready => (ready []).depth_pos, fun pos uses => ready_iff.2 (depth_run pos uses).1⟩

/-- The turtle of a document is empty exactly if the document lists no poses. -/
theorem depth_eq_zero_iff_of_ofJson? {v : Json} (read : ofJson? v = some t) :
    t.depth = 0 ↔ v.asFields? ["states"] = some [some (.array [])] := by
  unfold ofJson? at read
  split at read
  · next listed fields =>
    obtain ⟨poses, items, rfl⟩ := Option.map_eq_some_iff.1 read
    obtain ⟨vs, rfl, each⟩ := Json.asList?_eq_some_iff.1 items
    rw [fields]
    cases each with
    | nil => simp [depth]
    | cons => simp [depth]
  · cases read

/-- The turtle at the root is ready after any uses.  A turtle that is read from a document is so
exactly if the document lists a pose. -/
theorem always_ready {v : Json} {t : Turtle} (read : ofJson? v = some t) :
    (∀ uses, (root.run uses).Ready) ∧
    ((∀ uses, (t.run uses).Ready) ↔ v.asFields? ["states"] ≠ some [some (.array [])]) := by
  refine ⟨ready_run_iff.2 Nat.one_pos, ?_⟩
  rw [ready_run_iff, Nat.pos_iff_ne_zero]
  exact not_congr (depth_eq_zero_iff_of_ofJson? read)

/-- The document of the turtle at the root. -/
theorem always_ready_of_document :
    ofJson? (toJson .root) = some .root ∧ ∀ uses, (root.run uses).Ready := by
  have read : ofJson? (toJson .root) = some .root := by decide +kernel
  have listed : (toJson .root).asFields? ["states"] ≠ some [some (.array [])] := by
    simp [toJson, root, Json.asFields?, Json.member?]
  exact ⟨read, (always_ready read).2.2 listed⟩

/-- A document that lists no poses is read as a turtle.  It stays without a pose whatever is done
with it, every use but closing a branch wants one, and closing a branch fails though the depth is
not 1. -/
theorem empty_of_document :
    ∃ v t, Json.ofText? "\x7b\"states\":[]\x7d" = some v ∧ ofJson? v = some t ∧
      ∀ uses, (t.run uses).depth = 0 ∧
        (∀ a, (∀ i, a ≠ .pop i) → ((t.run uses).use a).2 = some .emptyTurtle) ∧
        ∀ i, ((t.run uses).use (.pop i)).2 ≠ none := by
  have read : (Json.ofText? "\x7b\"states\":[]\x7d").bind ofJson? = some ⟨[]⟩ := by
    decide +kernel
  obtain ⟨v, text, made⟩ := Option.bind_eq_some_iff.1 read
  refine ⟨v, ⟨[]⟩, text, made, fun uses => ?_⟩
  have empty : depth ⟨[]⟩ = 0 := rfl
  rw [run_of_empty empty]
  exact ⟨empty, fun a other => (use_of_empty empty a).2.2 other,
    fun i => (use_of_empty empty (.pop i)).2.1⟩

end Turtle

end PlantGrammar
