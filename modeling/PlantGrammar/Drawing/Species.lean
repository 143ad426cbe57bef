import PlantGrammar.Drawing.Walk
import PlantGrammar.Derivation.Recorded
import PlantGrammar.Derivation.Growth

/-!
# Species

A species has rules and a habit. Its word is the seed of the habit, expanded by the rules; drawing
the word with a flower and a random source gives the mesh of one plant.
-/

namespace PlantGrammar

/-- Rules and a habit. -/
structure Species where
  rules : RuleTable := .standard
  habit : Habit := {}

/-- What has become of growing a plant: its mesh or why there is none, the rest of the random
source, and the journal. -/
structure Harvest (σ : Type) where
  mesh : Except GrowthError Mesh
  source : σ
  journal : Journal

namespace Species

/-- The word that growth starts from. -/
def seedWord (sp : Species) : Word := Word.ofText sp.habit.seed

/-- The word of the species. -/
def expand (sp : Species) (j : Journal) : Word × Journal :=
  let passes := sp.habit.iterations.toNat
  let event (_ : Unit) : Event :=
    .expanding sp.habit.seed passes (sp.rules.predictedLength sp.seedWord passes)
  sp.rules.expandRecorded sp.seedWord 0 (j.recordLazily .debug event) passes

variable {σ : Type} [RandomSource σ]

/-- Draws a word. Every branch that it opens must be closed by its end, and no other. -/
def build (sp : Species) (w : Word) (f : Flower) (source : σ) (j : Journal) : Harvest σ :=
  match (Canvas.blank source j).walk sp.habit f 0 w with
  | ⟨c, some e⟩ => ⟨.error e, c.source, c.journal⟩
  | ⟨c, none⟩ =>
    if 1 < c.turtle.depth then
      ⟨.error (.stackUnderflow w.length (c.turtle.depth - 1)), c.source, c.journal⟩
    else
      let mesh := c.builder.finish
      ⟨.ok mesh, c.source, c.journal.record (.built mesh.vertexCount mesh.triangleCount)⟩

/-- Draws the word of the species. -/
def grow (sp : Species) (f : Flower) (source : σ) (j : Journal) : Harvest σ :=
  let (w, j) := sp.expand j
  sp.build w f source j

end Species

end PlantGrammar
