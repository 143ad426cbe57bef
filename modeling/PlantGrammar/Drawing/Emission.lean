import PlantGrammar.Drawing.Canvas
import PlantGrammar.Habit
import PlantGrammar.Mesh.Box
import PlantGrammar.Mesh.Flower

/-!
# Drawing acts

What the turtle does for the symbols that are seen in the mesh: it draws a segment and moves to its
end, draws a flower where it is, or takes a random orientation. A segment takes one random word; a
turn takes two, first for the angle and then for the template; a flower takes none.
-/

namespace PlantGrammar.Canvas

variable {σ : Type}

/-- Draws a segment along the heading and moves to its end. -/
def branch [RandomSource σ] (c : Canvas σ) (h : Habit) : Outcome σ :=
  let depth := c.turtle.depth
  let (x, c) := c.draw
  let length := h.branchLength depth (RandomSource.unitOfWord x)
  let width := h.branchWidth depth
  match c.turtle.current? with
  | none => c.fail .emptyTurtle
  | some pose =>
    (c.append ((Box.segment width length).place pose)).andThen fun c =>
      (c.record (.branch pose.position depth length width)).move fun p => p.advance length

/-- Draws a flower at the current pose. -/
def flower (c : Canvas σ) (h : Habit) (f : Flower) : Outcome σ :=
  match c.turtle.current? with
  | none => c.fail .emptyTurtle
  | some pose =>
    let shaped := f.block.shape (fun v => v.divide h.flowerPositionDivisor)
      fun n => n.divide h.flowerNormalDivisor
    (c.append (shaped.place pose)).andThen fun c =>
      (c.record (.flower pose.position f.vertexCount)).done

/-- Takes the orientation of a random template, turned by an angle in degrees. -/
def reorient [RandomSource σ] (c : Canvas σ) (degrees : Float32) : Outcome σ :=
  match c.turtle.current? with
  | none => c.fail .emptyTurtle
  | some _ =>
    let (x, c) := c.draw
    c.move fun p => p.reorient (TurnTemplate.ofWord x) degrees

/-- Takes a random orientation at the angle of the habit. -/
def turn [RandomSource σ] (c : Canvas σ) (h : Habit) : Outcome σ :=
  let (x, c) := c.draw
  c.reorient (h.turnAngle (RandomSource.unitOfWord x))

end PlantGrammar.Canvas
