import PlantGrammar.Proofs.Word.Brackets

/-!
# Nesting

How deep the brackets of a word are nested: the greatest number of branches that a prefix of the word
opens beyond those that it closes.

* `Word.nesting_le_iff`: nesting in terms of the numbers of symbols in the prefixes.
* `Word.Balanced.nesting_append_le_iff`: behind a balanced word the nesting starts anew.
-/

namespace PlantGrammar.Word

/-- The greatest surplus of opened branches over closed ones among the prefixes of a word. -/
def nesting : Word → Nat
  | [] => 0
  | s :: w =>
    match s.action with
    | .push => nesting w + 1
    | .pop => nesting w - 1
    | _ => nesting w

variable {d : Nat} {s : Symbol} {v w : Word}

theorem nesting_nil : nesting [] = 0 := rfl

theorem nesting_cons_le_iff :
    nesting (s :: w) ≤ d ↔ tally .push [s] ≤ d + tally .pop [s] ∧
      nesting w + tally .push [s] ≤ d + tally .pop [s] := by
  rw [tally_singleton, tally_singleton, nesting]
  cases s.action with
  | push =>
    simp
    omega
  | pop | branch | turn | flower | ignore => simp

/-- No prefix opens more branches than that beyond those that it closes. -/
theorem nesting_le_iff :
    nesting w ≤ d ↔ ∀ v, v <+: w → tally .push v ≤ d + tally .pop v := by
  induction w generalizing d with
  | nil => simp [nesting_nil, List.prefix_nil]
  | cons s w ih =>
    have pops := tally_cons_eq_add .pop s
    have pushes := tally_cons_eq_add .push s
    rw [nesting_cons_le_iff]
    constructor
    · rintro ⟨-, rest⟩ v prefixed
      obtain rfl | ⟨u, rfl, inner⟩ := List.prefix_cons_iff.1 prefixed
      · exact Nat.zero_le _
      · have := ih.1 (Nat.le_refl (nesting w)) u inner
        rw [pushes, pops]
        omega
    · intro prefixes
      have first := prefixes [s] ((List.prefix_cons_inj s).2 List.nil_prefix)
      have rest : nesting w ≤ d + tally .pop [s] - tally .push [s] := by
        refine ih.2 fun v prefixed => ?_
        have := prefixes (s :: v) ((List.prefix_cons_inj s).2 prefixed)
        rw [pushes, pops] at this
        omega
      omega

/-- A branch that is closed too often does not make room for another. -/
example : nesting (ofText "D[+[B]F]][S") = 2 := by decide

/-- Behind a balanced word as many branches are open as before it. -/
theorem Balanced.nesting_append_le_iff (balanced : v.Balanced) :
    nesting (v ++ w) ≤ d ↔ nesting v ≤ d ∧ nesting w ≤ d := by
  have closed : tally .pop v = tally .push v := balanced.tally_eq
  rw [nesting_le_iff, nesting_le_iff, nesting_le_iff]
  constructor
  · intro prefixes
    refine ⟨fun u prefixed => prefixes u (prefixed.trans (List.prefix_append v w)),
      fun u prefixed => ?_⟩
    have := prefixes (v ++ u) ((List.prefix_append_right_inj v).2 prefixed)
    rw [tally_append, tally_append] at this
    omega
  · rintro ⟨left, right⟩ u prefixed
    obtain inside | ⟨u, rfl⟩ := List.prefix_or_prefix_of_prefix prefixed (List.prefix_append v w)
    · exact left u inside
    · have := right u ((List.prefix_append_right_inj v).1 prefixed)
      rw [tally_append, tally_append]
      omega

/-- A word that opens no branch is not nested. -/
theorem nesting_eq_zero (unopened : Symbol.push ∉ w) : nesting w = 0 := by
  induction w with
  | nil => rfl
  | cons s w ih =>
    rw [List.mem_cons, not_or] at unopened
    have inner : nesting w = 0 := ih unopened.2
    rw [nesting]
    cases s with
    | push => exact absurd rfl unopened.1
    | pop => exact congrArg (· - 1) inner
    | _ => exact inner

end PlantGrammar.Word
