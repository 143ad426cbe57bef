import PlantGrammar.Drawing.Species
import PlantGrammar.Format.Alphabet
import PlantGrammar.Format.Geometry
import PlantGrammar.Format.Habits
import PlantGrammar.Format.Meshes
import PlantGrammar.Format.Rules
import PlantGrammar.Json.Reader
import PlantGrammar.Loading.Gate
import PlantGrammar.Proofs.Derivation.Brackets
import PlantGrammar.Proofs.Derivation.Lengths
import PlantGrammar.Proofs.Drawing.Branches
import PlantGrammar.Proofs.Drawing.Draws
import PlantGrammar.Proofs.Drawing.Sessions
import PlantGrammar.Proofs.Loading.Histories
import PlantGrammar.Random.Scripted
import PlantGrammar.Proofs.Format.Rules
import PlantGrammar.Proofs.Drawing.Silence
import PlantGrammar.Proofs.Format.Blanks
import PlantGrammar.Proofs.Drawing.Ranges
import PlantGrammar.Proofs.Drawing.Uses
import PlantGrammar.Proofs.Derivation.Passes
import PlantGrammar.Proofs.Derivation.Splicing
import PlantGrammar.Proofs.Derivation.StandardRules
import PlantGrammar.Proofs.Drawing.Capacity
import PlantGrammar.Proofs.Drawing.StandardPlants
import PlantGrammar.Proofs.Derivation.Nesting
import PlantGrammar.Proofs.Numeral.Counts
import PlantGrammar.Proofs.Drawing.Depths
import PlantGrammar.Proofs.Drawing.Meanings
import PlantGrammar.Proofs.Drawing.SavedPoses
import PlantGrammar.Proofs.Drawing.Ornaments
import PlantGrammar.Proofs.Drawing.UnseenTurns
import PlantGrammar.Proofs.Drawing.Frames
import PlantGrammar.Proofs.Drawing.Overflows
import PlantGrammar.Proofs.Format.Texts
import PlantGrammar.Proofs.Format.Values
import PlantGrammar.Proofs.Format.Words
import PlantGrammar.Proofs.Mesh.Coordinates
import PlantGrammar.Proofs.Numeral.Differences
import PlantGrammar.Proofs.Drawing.Widths
import PlantGrammar.Proofs.Derivation.Recording
import PlantGrammar.Proofs.Drawing.Recording
