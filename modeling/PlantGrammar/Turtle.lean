import PlantGrammar.Geometry.Pose
import PlantGrammar.GrowthError

/-!
# Turtles

A turtle is a stack of poses. Opening a branch copies the pose on top, closing one takes it away;
the last pose is never taken away. A turtle read from a file may have no pose at all, which is why
looking at the top may fail.
-/

namespace PlantGrammar

/-- A stack of poses, the current one first. -/
structure Turtle where
  poses : List Pose
  deriving DecidableEq

namespace Turtle

/-- The turtle at the root of the plant. -/
def root : Turtle := ⟨[.root]⟩

/-- The number of poses: 1 at the root, one more for every open branch. -/
def depth (t : Turtle) : Nat := t.poses.length

/-- The current pose. -/
def current? (t : Turtle) : Option Pose := t.poses.head?

/-- Opens a branch. -/
def push? (t : Turtle) : Option Turtle :=
  match t.poses with
  | [] => none
  | p :: ps => some ⟨p :: p :: ps⟩

/-- Closes a branch, giving the pose that is left behind. The position of the symbol is only
reported. -/
def pop (t : Turtle) (position : Nat) : Except GrowthError (Pose × Turtle) :=
  match t.poses with
  | p :: q :: ps => .ok (p, ⟨q :: ps⟩)
  | _ => .error (.stackUnderflow position 0)

/-- Changes the current pose. -/
def modify? (t : Turtle) (f : Pose → Pose) : Option Turtle :=
  match t.poses with
  | [] => none
  | p :: ps => some ⟨f p :: ps⟩

/-- A branch can be closed exactly when more than the pose at the root is left. -/
theorem pop_eq_error_iff {t : Turtle} {i : Nat} {e : GrowthError} :
    t.pop i = .error e ↔ t.depth ≤ 1 ∧ e = .stackUnderflow i 0 := by
  obtain ⟨_ | ⟨p, _ | ⟨q, ps⟩⟩⟩ := t <;> simp [pop, depth, eq_comm]

theorem depth_of_pop {t u : Turtle} {i : Nat} {p : Pose} (h : t.pop i = .ok (p, u)) :
    t.depth = u.depth + 1 := by
  obtain ⟨_ | ⟨p, _ | ⟨q, ps⟩⟩⟩ := t
  · cases h
  · cases h
  · cases h
    rfl

end Turtle

end PlantGrammar
