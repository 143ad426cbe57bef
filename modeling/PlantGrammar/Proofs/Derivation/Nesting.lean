import PlantGrammar.Proofs.Derivation.Brackets
import PlantGrammar.Proofs.Word.Nesting

/-!
# Nesting under expansion

A pass puts a replacement in the place of a symbol, so brackets that are nested in the replacement
come inside those that were open before the symbol.  How deep a word is nested grows in each pass by
no more than the replacements are nested themselves (`RuleTable.nesting_pass_le`), since balanced
replacements leave the branches before the other symbols as they were.

* `RuleTable.nesting_expand_le`: how deep an expanded word is nested.
-/

namespace PlantGrammar.RuleTable

open Word

/-- No replacement is nested deeper than `k`. -/
def NestsWithin (t : RuleTable) (k : Nat) : Prop := ∀ s w, t.get? s = some w → w.nesting ≤ k

theorem nestsWithin_standard : standard.NestsWithin 1 := by
  intro s w rule
  have all : standard.entries.all (fun e => decide (Word.nesting e.2 ≤ 1)) = true := by decide
  exact of_decide_eq_true (List.all_eq_true.1 all (s, w) (mem_entries_of_get? rule))

variable {t : RuleTable} {k : Nat} (keeps : t.KeepsBrackets) (nested : t.NestsWithin k)

include keeps nested

theorem nesting_pass_le (w : Word) : (t.pass w).nesting ≤ w.nesting + k := by
  induction w with
  | nil => exact Nat.zero_le _
  | cons s w ih =>
    have stay := nesting_cons_le_iff.1 (Nat.le_refl (Word.nesting (s :: w)))
    rw [pass_cons, image]
    cases rule : t.get? s with
    | none =>
      change Word.nesting (s :: t.pass w) ≤ _
      rw [nesting_cons_le_iff]
      omega
    | some r =>
      obtain ⟨no_push, no_pop⟩ := keeps.unbracketed rule
      have push : Word.tally .push [s] = 0 := by rw [Word.tally_singleton, if_neg no_push]
      have pop : Word.tally .pop [s] = 0 := by rw [Word.tally_singleton, if_neg no_pop]
      refine (keeps.balanced s r rule).nesting_append_le_iff.2 ⟨?_, ?_⟩
      · exact (nested s r rule).trans (Nat.le_add_left k _)
      · omega

theorem nesting_expand_le (w : Word) (n : Nat) : (t.expand w n).nesting ≤ w.nesting + k * n := by
  induction n generalizing w with
  | zero => exact Nat.le_refl _
  | succ n ih =>
    have first := nesting_pass_le keeps nested w
    have rest := ih (t.pass w)
    rw [expand_succ, Nat.mul_succ]
    omega

end PlantGrammar.RuleTable
