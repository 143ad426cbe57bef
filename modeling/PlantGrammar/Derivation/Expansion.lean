import PlantGrammar.Derivation.Table

/-!
# Expansion

A pass replaces every symbol of a word at once; what it puts in their place is left to the next
pass.

* `RuleTable.pass_append`: a pass works on the parts of a word separately.
* `RuleTable.expand_succ`: `n + 1` passes are one pass and then `n`, although expansion stops as
  soon as the word is empty.
-/

namespace PlantGrammar

namespace RuleTable

/-- What a symbol becomes in one pass. -/
def image (t : RuleTable) (s : Symbol) : Word := (t.get? s).getD [s]

/-- One pass over a word. -/
def pass (t : RuleTable) (w : Word) : Word := w.flatMap t.image

/-- The given number of passes. Nothing grows from the empty word, so it ends the expansion. -/
def expand (t : RuleTable) (w : Word) : Nat → Word
  | 0 => w
  | n + 1 => if w.isEmpty then w else t.expand (t.pass w) n

@[simp]
theorem pass_nil (t : RuleTable) : t.pass [] = [] := rfl

theorem pass_cons (t : RuleTable) (s : Symbol) (w : Word) :
    t.pass (s :: w) = t.image s ++ t.pass w := rfl

@[simp]
theorem pass_append (t : RuleTable) (v w : Word) :
    t.pass (v ++ w) = t.pass v ++ t.pass w :=
  List.flatMap_append

@[simp]
theorem expand_zero (t : RuleTable) (w : Word) : t.expand w 0 = w := rfl

@[simp]
theorem expand_nil (t : RuleTable) (n : Nat) : t.expand [] n = [] := by
  cases n <;> rfl

theorem expand_succ (t : RuleTable) (w : Word) (n : Nat) :
    t.expand w (n + 1) = t.expand (t.pass w) n := by
  cases w with
  | nil => simp
  | cons s w => simp [expand]

end RuleTable

end PlantGrammar
