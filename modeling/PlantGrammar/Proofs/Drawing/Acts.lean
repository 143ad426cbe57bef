import PlantGrammar.Drawing.Walk

/-!
# What drawing acts do

Each act on a canvas whose turtle has a pose, written out as the canvas that it leaves and the
failure that it reports.  Segments and flowers append one block, `Canvas.segmentAt` and
`Flower.blockAt`, and whether they fail is decided by that alone; turns never fail.  From the
equations follow the effects on single parts of the canvas.
-/

namespace PlantGrammar

namespace Flower

/-- The flower as it is drawn at a pose. -/
def blockAt (f : Flower) (h : Habit) (p : Pose) : Block :=
  (f.block.shape (fun v => v.divide h.flowerPositionDivisor)
    fun n => n.divide h.flowerNormalDivisor).place p

@[simp]
theorem length_vertices_blockAt (f : Flower) (h : Habit) (p : Pose) :
    (f.blockAt h p).vertices.length = min f.positions.length f.normals.length := by
  simp [blockAt, block]

@[simp]
theorem indices_blockAt (f : Flower) (h : Habit) (p : Pose) :
    (f.blockAt h p).indices = f.indices := rfl

end Flower

namespace Canvas

variable {σ : Type} {c : Canvas σ} {p : Pose} {ps : List Pose}

/-! ### Flowers -/

section Flower

variable (poses : c.turtle.poses = p :: ps) (h : Habit) (f : Flower)

include poses

theorem flower_eq :
    c.flower h f =
      match c.builder.append (f.blockAt h p) with
      | (builder, some e) => ⟨{ c with builder }, some e⟩
      | (builder, none) =>
        ⟨{ c with builder, journal := c.journal.record (.flower p.position f.vertexCount) },
          none⟩ := by
  obtain ⟨⟨_⟩, builder, source, journal⟩ := c
  cases poses
  rw [flower]
  simp only [Turtle.current?, List.head?_cons, append, Flower.blockAt]
  split
  · next e => simp only [e, Outcome.andThen]
  · next e => simp only [e, Outcome.andThen, record, done]

theorem builder_flower :
    (c.flower h f).canvas.builder = (c.builder.append (f.blockAt h p)).1 := by
  rw [flower_eq poses]
  rcases c.builder.append (f.blockAt h p) with ⟨_, _ | e⟩ <;> rfl

theorem failure_flower : (c.flower h f).failure = (c.builder.append (f.blockAt h p)).2 := by
  rw [flower_eq poses]
  rcases c.builder.append (f.blockAt h p) with ⟨_, _ | e⟩ <;> rfl

theorem turtle_flower : (c.flower h f).canvas.turtle = c.turtle := by
  rw [flower_eq poses]
  rcases c.builder.append (f.blockAt h p) with ⟨_, _ | e⟩ <;> rfl

end Flower

variable [RandomSource σ]

/-! ### Segments -/

/-- The length of the segment that is drawn next, which depends on the next random word. -/
def segmentLength (c : Canvas σ) (h : Habit) : Float32 :=
  h.branchLength c.turtle.depth (RandomSource.unitOfWord (RandomSource.next c.source).1)

/-- The segment that is drawn next, if the turtle is at the given pose. -/
def segmentAt (c : Canvas σ) (h : Habit) (p : Pose) : Block :=
  (Box.segment (h.branchWidth c.turtle.depth) (c.segmentLength h)).place p

@[simp]
theorem length_vertices_segmentAt (c : Canvas σ) (h : Habit) (p : Pose) :
    (c.segmentAt h p).vertices.length = 24 := by
  rw [segmentAt, Block.length_vertices_place, Box.length_vertices_segment]

@[simp]
theorem indices_segmentAt (c : Canvas σ) (h : Habit) (p : Pose) :
    (c.segmentAt h p).indices = Box.indices := rfl

section Segment

variable (poses : c.turtle.poses = p :: ps) (h : Habit)

include poses

/-- The random word has been drawn when the block turns out not to fit; the turtle moves only when
it fits. -/
theorem branch_eq :
    c.branch h =
      match c.builder.append (c.segmentAt h p) with
      | (builder, some e) => ⟨{ c with builder, source := (RandomSource.next c.source).2 }, some e⟩
      | (builder, none) =>
        ⟨⟨⟨p.advance (c.segmentLength h) :: ps⟩, builder, (RandomSource.next c.source).2,
          c.journal.record (.branch p.position c.turtle.depth (c.segmentLength h)
            (h.branchWidth c.turtle.depth))⟩, none⟩ := by
  obtain ⟨⟨_⟩, builder, source, journal⟩ := c
  cases poses
  rw [branch]
  simp only [draw, Turtle.current?, List.head?_cons, append, segmentAt, segmentLength]
  split
  · next e => simp only [e, Outcome.andThen]
  · next e => simp only [e, Outcome.andThen, record, move, Turtle.modify?, done]

theorem builder_branch :
    (c.branch h).canvas.builder = (c.builder.append (c.segmentAt h p)).1 := by
  rw [branch_eq poses]
  rcases c.builder.append (c.segmentAt h p) with ⟨_, _ | e⟩ <;> rfl

theorem failure_branch : (c.branch h).failure = (c.builder.append (c.segmentAt h p)).2 := by
  rw [branch_eq poses]
  rcases c.builder.append (c.segmentAt h p) with ⟨_, _ | e⟩ <;> rfl

theorem depth_branch : (c.branch h).canvas.turtle.depth = c.turtle.depth := by
  rw [branch_eq poses]
  rcases c.builder.append (c.segmentAt h p) with ⟨_, _ | e⟩ <;> simp [Turtle.depth, poses]

end Segment

/-! ### Turns -/

/-- The first word gives the angle, the second the template. -/
theorem turn_eq (poses : c.turtle.poses = p :: ps) (h : Habit) :
    c.turn h =
      let (x, rest) := RandomSource.next c.source
      let (y, rest) := RandomSource.next rest
      { c with
        turtle := ⟨p.reorient (TurnTemplate.ofWord y) (h.turnAngle (RandomSource.unitOfWord x)) :: ps⟩
        source := rest }.done := by
  obtain ⟨⟨_⟩, builder, source, journal⟩ := c
  cases poses
  rfl

section Step

variable {s : Symbol} (h : Habit) (f : Flower) (i : Nat)

theorem step_push (act : s.action = .push) (poses : c.turtle.poses = p :: ps) :
    c.step h f i s = { c with turtle := ⟨p :: p :: ps⟩ }.done := by
  rw [step, act]
  simp only [Turtle.push?, poses]

theorem step_pop {q : Pose} (act : s.action = .pop) (poses : c.turtle.poses = q :: p :: ps) :
    c.step h f i s = { c with turtle := ⟨p :: ps⟩ }.done := by
  rw [step, act]
  simp only [Turtle.pop, poses]

/-- The pose at the root is not given up. -/
theorem step_pop_root (act : s.action = .pop) (root : c.turtle.depth ≤ 1) :
    c.step h f i s = c.fail (.stackUnderflow i 0) := by
  have refused : c.turtle.pop i = .error (.stackUnderflow i 0) :=
    Turtle.pop_eq_error_iff.2 ⟨root, rfl⟩
  rw [step, act]
  simp only [refused]

theorem step_branch (act : s.action = .branch) : c.step h f i s = c.branch h := by
  rw [step, act]

theorem step_turn (act : s.action = .turn) : c.step h f i s = c.turn h := by
  rw [step, act]

theorem step_flower (act : s.action = .flower) : c.step h f i s = c.flower h f := by
  rw [step, act]

theorem step_ignore (act : s.action = .ignore) : c.step h f i s = c.done := by
  rw [step, act]

end Step

end Canvas

end PlantGrammar
