import PlantGrammar.Proofs.Derivation.Lengths
import PlantGrammar.Proofs.Word.Brackets

/-!
# Brackets under expansion

Rules whose replacements are balanced, and which leave the brackets themselves alone, change nothing
about the branches of a word: before and after any number of passes as many of them are open
(`RuleTable.level_expand`).  Nor do such rules repair a word that closes a branch too many, because
its first surplus bracket is still there, with the expansion of what stands before it in front
(`RuleTable.expand_unmatched`).
-/

namespace PlantGrammar.RuleTable

/-- Brackets have no rules, and all replacements are balanced. -/
structure KeepsBrackets (t : RuleTable) : Prop where
  push : t.get? .push = none
  pop : t.get? .pop = none
  balanced : ∀ s w, t.get? s = some w → w.Balanced

theorem keepsBrackets_standard : standard.KeepsBrackets where
  push := by decide
  pop := by decide
  balanced s w rule := by
    have all : standard.entries.all (fun e => decide (Word.Balanced e.2)) = true := by decide
    exact of_decide_eq_true (List.all_eq_true.1 all (s, w) (mem_entries_of_get? rule))

variable {t : RuleTable} (keeps : t.KeepsBrackets)

include keeps

/-- A symbol with a rule is not a bracket. -/
theorem KeepsBrackets.unbracketed {s : Symbol} {w : Word} (rule : t.get? s = some w) :
    s.action ≠ .push ∧ s.action ≠ .pop := by
  cases s with
  | push => rw [keeps.push] at rule; cases rule
  | pop => rw [keeps.pop] at rule; cases rule
  | _ => exact ⟨nofun, nofun⟩

theorem level_image (d : Nat) (s : Symbol) : Word.level d (t.image s) = s.level d := by
  rw [image]
  cases rule : t.get? s with
  | none => exact Word.level_singleton d s
  | some w =>
    have unbracketed := keeps.unbracketed rule
    have stays : s.level d = some d := by
      rw [Symbol.level]
      cases act : s.action <;> simp_all
    rw [stays]
    exact (keeps.balanced s w rule).level_eq d

/-- A pass leaves as many branches open as there were, and loses count where it was lost. -/
theorem level_pass (d : Nat) (w : Word) : Word.level d (t.pass w) = Word.level d w := by
  induction w generalizing d with
  | nil => rfl
  | cons s w ih =>
    rw [pass_cons, Word.level_append, Word.level_cons, level_image keeps]
    cases s.level d with
    | none => rfl
    | some e => exact ih e

theorem level_expand (d : Nat) (w : Word) (n : Nat) :
    Word.level d (t.expand w n) = Word.level d w := by
  induction n generalizing w with
  | zero => rfl
  | succ n ih => rw [expand_succ, ih, level_pass keeps]

/-- The bracket stands behind the expansion of what was before it. -/
theorem expand_unmatched (v w : Word) (n : Nat) :
    t.expand (v ++ .pop :: w) n = t.expand v n ++ .pop :: t.expand w n := by
  rw [expand_append, ← List.singleton_append, expand_append,
    expand_singleton_of_get?_eq_none keeps.pop, List.singleton_append]

end PlantGrammar.RuleTable
