import PlantGrammar.Geometry.Vector
import PlantGrammar.Numeral.Fixed
import PlantGrammar.Text.Quoted

/-!
# Journals

What happens while a plant grows is recorded as events. Each event has a level; a journal keeps the
events whose level its verbosity admits and drops the others.
-/

namespace PlantGrammar

/-- How important an event is. -/
inductive Level where
  | error
  | warn
  | info
  | debug
  | trace
  deriving DecidableEq, Repr

namespace Level

/-- The place of a level in the order from the most to the least important. -/
def rank : Level → Nat
  | error => 1
  | warn => 2
  | info => 3
  | debug => 4
  | trace => 5

def name : Level → String
  | error => "ERROR"
  | warn => "WARN"
  | info => "INFO"
  | debug => "DEBUG"
  | trace => "TRACE"

end Level

/-- Something that happened. -/
inductive Event where
  /-- An expansion of the seed begins; its result is predicted to have `length` symbols. -/
  | expanding (seed : String) (passes : Nat) (length : Nat)
  /-- A pass has left `length` symbols. -/
  | pass (number length : Nat)
  /-- A segment was drawn, starting at `position`. -/
  | branch (position : Vec3) (depth : Nat) (length width : Float32)
  /-- A flower was drawn. -/
  | flower (position : Vec3) (vertices : Nat)
  /-- A mesh is complete. -/
  | built (vertices triangles : Nat)
  /-- Growth waits for the flower to arrive. -/
  | waiting
  deriving DecidableEq

namespace Event

def level : Event → Level
  | expanding .. | pass .. | waiting => .debug
  | branch .. | flower .. => .trace
  | built .. => .info

/-- The components of a vector in brackets. -/
def vectorText (v : Vec3) : String :=
  "[" ++ ", ".intercalate (v.toList.map Numeral.shortest) ++ "]"

def message : Event → String
  | expanding seed n l =>
    "expanding " ++ Text.quoted seed ++ s!" for {n} passes, predicted {l} symbols"
  | pass n l => s!"expansion pass {n}: {l} symbols"
  | branch p d l w =>
    "branch at " ++ vectorText p ++ s!" depth {d}, length " ++ Numeral.fixed 3 l ++ ", width "
      ++ Numeral.fixed 3 w
  | flower p n => "flower at " ++ vectorText p ++ s!" ({n} vertices)"
  | built v t => s!"built plant mesh with {v} vertices, {t} triangles"
  | waiting => "waiting for flower mesh"

end Event

/-- The events recorded so far, in order. -/
structure Journal where
  /-- The least important level that is recorded, if any is. -/
  verbosity : Option Level
  events : Array Event

namespace Journal

/-- A journal without events. -/
def start (verbosity : Option Level) : Journal := ⟨verbosity, #[]⟩

/-- A level is recorded if it is at least as important as the verbosity. -/
def admits (verbosity : Option Level) (l : Level) : Bool :=
  match verbosity with
  | none => false
  | some v => l.rank ≤ v.rank

/-- Adds an event if its level is recorded. -/
def record (j : Journal) (e : Event) : Journal :=
  if admits j.verbosity e.level then { j with events := j.events.push e } else j

theorem verbosity_record (j : Journal) (e : Event) : (j.record e).verbosity = j.verbosity := by
  unfold record
  split <;> rfl

theorem toList_events_record (j : Journal) (e : Event) :
    (j.record e).events.toList =
      j.events.toList ++ [e].filter fun e => admits j.verbosity e.level := by
  unfold record
  split <;> simp [*]

/-- Adds an event of the given level, whose data are only computed if the level is recorded. -/
def recordLazily (j : Journal) (l : Level) (e : Unit → Event) : Journal :=
  if admits j.verbosity l then { j with events := j.events.push (e ()) } else j

end Journal

end PlantGrammar
