import PlantGrammar.Proofs.Drawing.Pens
import PlantGrammar.Random.Scripted

/-!
# Saved poses

The turtle moves and turns with its current pose only.  While a word is drawn that closes no branch
but those that it opens, the poses saved before the word stay where they are, however deep the word
goes and whatever it does with copies of them.  After a balanced word in brackets the current pose is
the saved one again, so that the whole turtle is what it was.

* `Canvas.saved_walk`: the poses after such a word.
* `Canvas.stack_walk`: the depth and the saved poses, and the turtle after a branch in brackets.
-/

namespace PlantGrammar.Canvas

variable {σ : Type} {c : Canvas σ} {p : Pose} {ps : List Pose} {v w : Word}

theorem hasPen_of_poses (poses : c.turtle.poses = p :: ps) : c.HasPen ⟨p, ps, c.source⟩ :=
  ⟨poses, rfl⟩

variable [RandomSource σ] {h : Habit} {f : Flower} {i : Nat}

/-- New poses come on top of the saved ones, one for each branch that is left open. -/
theorem saved_walk (poses : c.turtle.poses = p :: ps) {k : Nat} (counted : w.level 0 = some k)
    (ok : (c.walk h f i w).failure = none) :
    ∃ q opened, (c.walk h f i w).canvas.turtle.poses = q :: (opened ++ ps) ∧ opened.length = k := by
  obtain ⟨moved, -⟩ := (hasPen_of_poses poses).walk ok
  obtain ⟨enough, below⟩ := Pen.saved_run h ⟨p, ps, c.source⟩ counted (Nat.zero_le _)
  generalize Pen.run h ⟨p, ps, c.source⟩ w = q at moved enough below
  have division : q.saved.take k ++ ps = q.saved := by
    have whole := List.take_append_drop k q.saved
    rwa [below] at whole
  refine ⟨q.pose, q.saved.take k, ?_, List.length_take_of_le enough⟩
  rw [moved.poses, division]

theorem turtle_walk_bracket (poses : c.turtle.poses = p :: ps) (balanced : v.Balanced)
    (ok : (c.walk h f i (.push :: v ++ [.pop])).failure = none) :
    (c.walk h f i (.push :: v ++ [.pop])).canvas.turtle = c.turtle := by
  obtain ⟨moved, -⟩ := (hasPen_of_poses poses).walk ok
  obtain ⟨source, back⟩ := Pen.run_bracket h ⟨p, ps, c.source⟩ balanced
  rw [back] at moved
  have same : (c.walk h f i (.push :: v ++ [.pop])).canvas.turtle.poses = c.turtle.poses :=
    moved.poses.trans poses.symm
  generalize (c.walk h f i (.push :: v ++ [.pop])).canvas.turtle = t at same ⊢
  exact congrArg Turtle.mk same

/-- Of a word none of whose prefixes closes more branches than it opens, drawing leaves the saved
poses as they are, below those of the branches that are still open.  A balanced word in brackets
gives the turtle back as it was, its current pose included. -/
theorem stack_walk (poses : c.turtle.poses = p :: ps) (h : Habit) (f : Flower) (i : Nat) :
    (∀ w : Word, (∀ u : Word, u <+: w → u.tally .pop ≤ u.tally .push) →
      (c.walk h f i w).failure = none →
      let t := (c.walk h f i w).canvas.turtle
      t.depth = c.turtle.depth + (w.tally .push - w.tally .pop) ∧
      ∃ q opened, t.poses = q :: (opened ++ ps) ∧
        opened.length = w.tally .push - w.tally .pop) ∧
    ∀ v : Word, v.Balanced → (c.walk h f i (.push :: v ++ [.pop])).failure = none →
      (c.walk h f i (.push :: v ++ [.pop])).canvas.turtle = c.turtle := by
  refine ⟨fun w inside ok => ?_, fun v balanced ok => turtle_walk_bracket poses balanced ok⟩
  have counted : w.level 0 = some (w.tally .push - w.tally .pop) := by
    apply Word.level_eq_some_iff.2
    refine ⟨fun u prefixed => by simpa using inside u prefixed, ?_⟩
    have whole := inside w List.prefix_rfl
    omega
  obtain ⟨q, opened, after, count⟩ := saved_walk poses counted ok
  refine ⟨?_, q, opened, after, count⟩
  rw [Turtle.depth, Turtle.depth, after, poses, ← count]
  simp only [List.length_cons, List.length_append]
  omega

/-- The turtle starts two branches deep; the word turns and moves, has a branch in brackets in it, and
leaves a branch open. -/
theorem stack_walk_of_two_branches :
    let c : Canvas Scripted := ⟨⟨[.root, ⟨.unitZ, .identity⟩, .root]⟩, .empty, ⟨[5], 7⟩, .start none⟩
    let w : Word := [.turn, .push, .bud, .push, .shoot, .turn, .pop, .flower]
    let v : Word := [.turn, .bud]
    (∀ u : Word, u <+: w → u.tally .pop ≤ u.tally .push) ∧
    (c.walk {} .empty 0 w).failure = none ∧
    (∃ q q', (c.walk {} .empty 0 w).canvas.turtle.poses = [q, q', ⟨.unitZ, .identity⟩, .root]) ∧
    v.Balanced ∧ (c.walk {} .empty 0 (.push :: v ++ [.pop])).failure = none ∧
    (c.walk {} .empty 0 (.push :: v ++ [.pop])).canvas.turtle = c.turtle := by
  intro c w v
  have inside : ∀ u : Word, u <+: w → u.tally .pop ≤ u.tally .push := by
    intro u prefixed
    have counted : w.level 0 = some 1 := by decide
    simpa using (Word.level_eq_some_iff.1 counted).1 u prefixed
  have balanced : v.Balanced := by decide
  have open_end : (c.walk {} .empty 0 w).failure = none := by decide +kernel
  have branch : (c.walk {} .empty 0 (.push :: v ++ [.pop])).failure = none := by decide +kernel
  obtain ⟨words, branches⟩ := stack_walk (c := c) rfl {} .empty 0
  obtain ⟨-, q, opened, after, count⟩ := words w inside open_end
  obtain ⟨q', rfl⟩ := List.length_eq_one_iff.1 (count.trans (by decide))
  exact ⟨inside, open_end, ⟨q, q', after⟩, balanced, branch, branches v balanced branch⟩

end PlantGrammar.Canvas
