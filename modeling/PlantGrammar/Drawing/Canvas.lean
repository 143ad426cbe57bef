import PlantGrammar.Journal
import PlantGrammar.Mesh.Builder
import PlantGrammar.Random.Source
import PlantGrammar.Turtle

/-!
# Canvases

The state of a drawing: the turtle, the mesh built so far, the random source and the journal. A
drawing act leaves a canvas behind also when it fails, since what it had drawn from the source and
appended to the mesh by then stays so.
-/

namespace PlantGrammar

/-- A drawing in progress. -/
structure Canvas (σ : Type) where
  turtle : Turtle
  builder : MeshBuilder
  source : σ
  journal : Journal

/-- The canvas after a drawing act, and why the act failed if it did. -/
structure Outcome (σ : Type) where
  canvas : Canvas σ
  failure : Option GrowthError

namespace Outcome

variable {σ : Type}

/-- Goes on with another act, unless the first has failed. -/
def andThen (o : Outcome σ) (act : Canvas σ → Outcome σ) : Outcome σ :=
  match o.failure with
  | none => act o.canvas
  | some _ => o

end Outcome

namespace Canvas

variable {σ : Type}

/-- The blank canvas, with the turtle at the root. -/
def blank (source : σ) (journal : Journal) : Canvas σ := ⟨.root, .empty, source, journal⟩

/-- The act is done. -/
def done (c : Canvas σ) : Outcome σ := ⟨c, none⟩

/-- The act has failed. -/
def fail (c : Canvas σ) (e : GrowthError) : Outcome σ := ⟨c, some e⟩

/-- A random word. -/
def draw [RandomSource σ] (c : Canvas σ) : UInt32 × Canvas σ :=
  let (x, rest) := RandomSource.next c.source
  (x, { c with source := rest })

/-- Adds an event to the journal. -/
def record (c : Canvas σ) (e : Event) : Canvas σ := { c with journal := c.journal.record e }

/-- Appends a block to the mesh. -/
def append (c : Canvas σ) (b : Block) : Outcome σ :=
  match c.builder.append b with
  | (builder, failure) => ⟨{ c with builder }, failure⟩

/-- Changes the current pose of the turtle. -/
def move (c : Canvas σ) (f : Pose → Pose) : Outcome σ :=
  match c.turtle.modify? f with
  | none => c.fail .emptyTurtle
  | some turtle => { c with turtle }.done

end Canvas

end PlantGrammar
