import PlantGrammar.Drawing.Emission
import PlantGrammar.Word

/-!
# Walks

The turtle reads a word from left to right and does what the drawing table says for each symbol,
until the word ends or an act fails.
-/

namespace PlantGrammar.Canvas

variable {σ : Type} [RandomSource σ]

/-- The act for the symbol at the given position of a word. -/
def step (h : Habit) (f : Flower) (position : Nat) (s : Symbol) (c : Canvas σ) : Outcome σ :=
  match s.action with
  | .push =>
    match c.turtle.push? with
    | none => c.fail .emptyTurtle
    | some turtle => { c with turtle }.done
  | .pop =>
    match c.turtle.pop position with
    | .error e => c.fail e
    | .ok (_, turtle) => { c with turtle }.done
  | .branch => c.branch h
  | .turn => c.turn h
  | .flower => c.flower h f
  | .ignore => c.done

/-- The acts for a word whose first symbol is at the given position. -/
def walk (h : Habit) (f : Flower) : Nat → Word → Canvas σ → Outcome σ
  | _, [], c => c.done
  | i, s :: w, c =>
    match c.step h f i s with
    | ⟨c, none⟩ => walk h f (i + 1) w c
    | o => o

@[simp]
theorem walk_nil (h : Habit) (f : Flower) (i : Nat) (c : Canvas σ) : walk h f i [] c = c.done := rfl

theorem walk_cons (h : Habit) (f : Flower) (i : Nat) (s : Symbol) (w : Word) (c : Canvas σ) :
    walk h f i (s :: w) c = (c.step h f i s).andThen (walk h f (i + 1) w) := by
  rw [walk, Outcome.andThen]
  obtain ⟨c, _ | e⟩ := c.step h f i s <;> rfl

/-- A word is walked part by part. -/
theorem walk_append (h : Habit) (f : Flower) (i : Nat) (v w : Word) (c : Canvas σ) :
    walk h f i (v ++ w) c = (walk h f i v c).andThen (walk h f (i + v.length) w) := by
  induction v generalizing i c with
  | nil => rfl
  | cons s v ih =>
    rw [List.cons_append, walk_cons, walk_cons]
    obtain ⟨c, _ | e⟩ := c.step h f i s
    · rw [List.length_cons, Nat.add_comm v.length, ← Nat.add_assoc]
      exact ih _ _
    · rfl

end PlantGrammar.Canvas
