import PlantGrammar.Derivation.Recorded
import PlantGrammar.Proofs.Derivation.Lengths

/-!
# Passes and parts

Expansion can be cut in two ways.  The parts of a word grow apart from each other, down to its single
symbols, since a symbol does not see its neighbours (`expand_append`, `expand_eq_flatMap`).  And the
passes can be made in portions, since a pass sees only the word that the passes before it have left
(`expand_add`).  So what an expansion consists of, its order apart, follows from what the word consists
of (`expand_perm`).  That an expansion ends early when nothing is left of the word cannot be noticed: the
word is the same as after all passes (`expand_eq_iterate`).

* `RuleTable.expand_splits`: both cuts at once.
-/

namespace PlantGrammar.RuleTable

variable (t : RuleTable)

theorem expand_eq_iterate (w : Word) (n : Nat) : t.expand w n = t.pass^[n] w := by
  induction n generalizing w with
  | zero => rfl
  | succ n ih => rw [expand_succ, ih, Function.iterate_succ_apply]

/-- The first `m` passes leave the word from which the others start. -/
theorem expand_add (w : Word) (m n : Nat) : t.expand w (m + n) = t.expand (t.expand w m) n := by
  rw [expand_eq_iterate, expand_eq_iterate, expand_eq_iterate, Nat.add_comm,
    Function.iterate_add_apply]

/-- A word grows symbol by symbol. -/
theorem expand_eq_flatMap (w : Word) (n : Nat) :
    t.expand w n = w.flatMap fun s => t.expand [s] n := by
  induction w with
  | nil => exact expand_nil t n
  | cons s w ih => rw [← List.singleton_append, expand_append, ih, List.flatMap_append,
      List.flatMap_singleton]

/-- Symbols without rules stay what they are. -/
theorem expand_eq_self {t : RuleTable} {w : Word} (fixed : ∀ s ∈ w, t.get? s = none) (n : Nat) :
    t.expand w n = w := by
  rw [expand_eq_flatMap, List.flatMap_congr fun s mem =>
    expand_singleton_of_get?_eq_none (fixed s mem) n, List.flatMap_singleton']

/-- Words with the same symbols grow into words with the same symbols. -/
theorem expand_perm {v w : Word} (perm : v.Perm w) (n : Nat) :
    (t.expand v n).Perm (t.expand w n) := by
  rw [expand_eq_flatMap, expand_eq_flatMap]
  exact perm.flatMap_right _

/-- However a word is divided and however the passes are, the expansion consists of those of the
parts, made in two portions.  One pass more is a pass over what there is, what a symbol grows into
does not depend on the others, and an expansion that ends early, recorded or not, gives the same word
as one that makes all its passes. -/
theorem expand_splits :
    (∀ (v w : Word) (m n : Nat),
      t.expand (v ++ w) (m + n) = t.expand (t.expand v m) n ++ t.expand (t.expand w m) n) ∧
    (∀ (w : Word) (n : Nat), t.expand w (n + 1) = t.pass (t.expand w n)) ∧
    (∀ (w : Word) (n : Nat), t.expand w n = w.flatMap fun s => t.expand [s] n) ∧
    ∀ (w : Word) (n number : Nat) (j : Journal),
      t.expand w n = t.pass^[n] w ∧ (t.expandRecorded w number j n).1 = t.pass^[n] w := by
  refine ⟨fun v w m n => ?_, fun w n => ?_, expand_eq_flatMap t, fun w n number j => ?_⟩
  · rw [expand_append, expand_add, expand_add]
  · rw [expand_eq_iterate, expand_eq_iterate, Function.iterate_succ_apply']
  · have early := expand_eq_iterate t w n
    exact ⟨early, (expandRecorded_fst t w number j n).trans early⟩

end PlantGrammar.RuleTable
