import PlantGrammar.Journal
import PlantGrammar.Derivation.Expansion

/-!
# Recorded expansion

Expansion that enters every pass in a journal. `RuleTable.expandRecorded_fst` says that recording
does not change the word.
-/

namespace PlantGrammar

/-- The passes of an expansion, recorded one by one; `number` passes are already done. -/
def RuleTable.expandRecorded (t : RuleTable) (w : Word) (number : Nat) (j : Journal) :
    Nat → Word × Journal
  | 0 => (w, j)
  | n + 1 =>
    if w.isEmpty then (w, j)
    else
      let next := t.pass w
      t.expandRecorded next (number + 1) (j.record (.pass (number + 1) next.length)) n

theorem RuleTable.expandRecorded_fst (t : RuleTable) (w : Word) (number : Nat) (j : Journal)
    (n : Nat) : (t.expandRecorded w number j n).1 = t.expand w n := by
  induction n generalizing w number j with
  | zero => rfl
  | succ n ih =>
    rw [expandRecorded, expand]
    split
    · rfl
    · exact ih _ _ _

end PlantGrammar
