import Mathlib
import PlantGrammar.Derivation.Expansion
import PlantGrammar.Derivation.Growth

/-!
# Lengths of expansions

A pass treats the symbols of a word separately, so the word that a symbol grows into does not depend
on its neighbours (`expand_append`), and the length of an expansion is the sum of the lengths that
its symbols reach (`length_expand`).  Prediction keeps these lengths without the words: after `n`
rounds every length that it keeps is the one reached in `n` passes, cut at the limit
(`Lengths.Exact`).  Cutting early or late makes no difference to a sum, and lengths that one round
leaves as they are stay so in all later ones.

* `RuleTable.predictedLength_eq`: the predicted length is the length of the expansion, cut at
  `2 ^ 64 - 1`.
-/

namespace PlantGrammar

namespace RuleTable

theorem expand_append (t : RuleTable) (v w : Word) (n : Nat) :
    t.expand (v ++ w) n = t.expand v n ++ t.expand w n := by
  induction n generalizing v w with
  | zero => rfl
  | succ n ih => rw [expand_succ, expand_succ, expand_succ, pass_append, ih]

/-- A symbol without a rule stays what it is. -/
theorem expand_singleton_of_get?_eq_none {t : RuleTable} {s : Symbol} (h : t.get? s = none)
    (n : Nat) : t.expand [s] n = [s] := by
  induction n with
  | zero => rfl
  | succ n ih =>
    have unchanged : t.pass [s] = [s] := by
      rw [pass_cons, image, h, pass_nil]
      rfl
    rw [expand_succ, unchanged, ih]

/-- The length of the word that a symbol grows into in `n` passes. -/
def reach (t : RuleTable) (n : Nat) (s : Symbol) : Nat := (t.expand [s] n).length

theorem length_expand (t : RuleTable) (w : Word) (n : Nat) :
    (t.expand w n).length = (w.map (t.reach n)).sum := by
  induction w with
  | nil => simp
  | cons s w ih =>
    rw [← List.singleton_append, expand_append, List.length_append, ih]
    simp [reach]

theorem reach_succ (t : RuleTable) (n : Nat) (s : Symbol) :
    t.reach (n + 1) s = ((t.image s).map (t.reach n)).sum := by
  rw [← length_expand, reach, expand_succ, pass_cons, pass_nil, List.append_nil]

theorem reach_of_get?_eq_none {t : RuleTable} {s : Symbol} (h : t.get? s = none) (n : Nat) :
    t.reach n s = 1 := by
  rw [reach, expand_singleton_of_get?_eq_none h]
  rfl

end RuleTable

namespace Growth

/-! ### Sums that stay at the limit -/

theorem add_min_min (a b : Nat) : add (min a limit) (min b limit) = min (a + b) limit := by
  unfold add
  omega

/-- Only the sum of all lengths is cut, however often the limit was met on the way. -/
theorem total_eq_min_sum {ls : Lengths} {g : Symbol → Nat} (h : ∀ s, ls.get s = min (g s) limit)
    (w : Word) : ls.total w = min (w.map g).sum limit := by
  have from_sum : ∀ m, w.foldl (fun n s => add n (ls.get s)) (min m limit) =
      min (m + (w.map g).sum) limit := by
    induction w with
    | nil => simp
    | cons s w ih =>
      intro m
      rw [List.foldl_cons, h, add_min_min, ih, List.map_cons, List.sum_cons, Nat.add_assoc]
  simpa [Lengths.total] using from_sum 0

/-- The length of every symbol is the one that it reaches in `n` passes, cut at the limit. -/
def Lengths.Exact (ls : Lengths) (t : RuleTable) (n : Nat) : Prop :=
  ∀ s, ls.get s = min (t.reach n s) limit

/-- No length is listed before the first round: every symbol still stands for itself. -/
theorem exact_nil (t : RuleTable) : Lengths.Exact [] t 0 := fun _ => rfl

end Growth

namespace RuleTable

open Growth

variable {t : RuleTable} {ls : Lengths} {n : Nat}

theorem get_nextLengths (t : RuleTable) (ls : Lengths) (s : Symbol) :
    (t.nextLengths ls).get s = ((t.get? s).map ls.total).getD 1 := by
  have lookup : ∀ es : List (Symbol × Word),
      (es.map fun e => (e.1, ls.total e.2)).lookup s = (es.lookup s).map ls.total := by
    intro es
    induction es with
    | nil => rfl
    | cons e es ih =>
      rw [List.map_cons, List.lookup_cons, List.lookup_cons]
      by_cases h : s = e.1
      · simp [h]
      · simp [beq_eq_false_iff_ne.2 h, ih]
  rw [Lengths.get, nextLengths, lookup, get?]

/-- A round lists the lengths of one more pass. -/
theorem exact_nextLengths (exact : ls.Exact t n) : (t.nextLengths ls).Exact t (n + 1) := by
  intro s
  rw [get_nextLengths]
  cases rule : t.get? s with
  | some w =>
    rw [reach_succ, image, rule]
    exact total_eq_min_sum exact w
  | none =>
    rw [reach_of_get?_eq_none rule]
    rfl

/-- Lengths that a round leaves as they are have stopped growing. -/
theorem exact_add_of_nextLengths_eq (exact : ls.Exact t n) (fixed : t.nextLengths ls = ls)
    (m : Nat) : ls.Exact t (n + m) := by
  induction m with
  | zero => exact exact
  | succ m ih =>
    have next := exact_nextLengths ih
    rwa [fixed] at next

theorem exact_lengthsAfter (exact : ls.Exact t n) (m : Nat) :
    (t.lengthsAfter m ls).Exact t (n + m) := by
  induction m generalizing ls n with
  | zero => exact exact
  | succ m ih =>
    rw [lengthsAfter]
    split
    · next fixed => exact exact_add_of_nextLengths_eq exact fixed (m + 1)
    · have rest := ih (exact_nextLengths exact)
      rwa [Nat.add_assoc, Nat.add_comm 1] at rest

/-- Every length that enters the prediction is exact, or cut at the limit. -/
theorem predictedLength_eq_min (t : RuleTable) (w : Word) (n : Nat) :
    t.predictedLength w n = min (t.expand w n).length limit := by
  have exact := exact_lengthsAfter (exact_nil t) n
  rw [Nat.zero_add] at exact
  rw [predictedLength, total_eq_min_sum exact, ← length_expand]

/-- A predicted length is the length of the expansion if that stays below the limit. -/
theorem predictedLength_of_lt {w : Word} (small : (t.expand w n).length < limit) :
    t.predictedLength w n = (t.expand w n).length := by
  rw [predictedLength_eq_min]
  exact Nat.min_eq_left (Nat.le_of_lt small)

/-- Prediction finds the length of the expansion itself, for every table and every number of
passes, or the limit if that length exceeds it. -/
theorem predictedLength_eq (t : RuleTable) (seed : Word) (n : Nat) :
    t.predictedLength seed n = min (t.expand seed n).length (2 ^ 64 - 1) :=
  predictedLength_eq_min t seed n

end RuleTable

end PlantGrammar
