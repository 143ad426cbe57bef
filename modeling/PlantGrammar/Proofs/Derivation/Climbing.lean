import PlantGrammar.Proofs.Derivation.Passes
import PlantGrammar.Proofs.Word.Sites

/-!
# Climbing

With each pass of the standard rules a bud moves one branch further in, behind a segment for each
branch and before any flower.  So the expansion of a bud begins with a climb through as many branches
as one likes, up to the number of passes (`RuleTable.exists_climb`), and so does that of any word whose
first pass puts a bud into a branch at its beginning (`RuleTable.Rises`), such as the default seed.

* `RuleTable.Rises.exists_segment`: at the end of every climb there is a segment.
-/

namespace PlantGrammar

/-- The word opens `k` branches, with a segment in front of each, and closes none. -/
structure Word.Climbs (v : Word) (k : Nat) : Prop where
  push : v.tally .push = k
  branch : v.tally .branch = k
  pop : v.tally .pop = 0
  flower : v.tally .flower = 0

theorem Word.climbs_nil : Word.Climbs [] 0 := ⟨rfl, rfl, rfl, rfl⟩

theorem Word.Climbs.append {v w : Word} {k m : Nat} (first : v.Climbs k) (second : w.Climbs m) :
    (v ++ w).Climbs (k + m) := by
  constructor <;> rw [tally_append]
  · rw [first.push, second.push]
  · rw [first.branch, second.branch]
  · rw [first.pop, second.pop]
  · rw [first.flower, second.flower]

namespace RuleTable

open Word

/-- The word begins with a segment, and after a pass with a segment and a branch in which a bud
grows. -/
structure Rises (w : Word) : Prop where
  segment : ∃ s u, w = s :: u ∧ s.action = .branch
  grown : ∃ u, standard.pass w = Word.ofText "D[+" ++ ([.bud] ++ u)

theorem rises_bud : Rises [.bud] := ⟨⟨_, _, rfl, rfl⟩, Word.ofText "]", by decide⟩

theorem rises_seed : Rises (Word.ofText "SDSBS") :=
  ⟨⟨.shoot, Word.ofText "DSBS", by decide, rfl⟩,
    Word.ofText "F][+S]+DD[+BF][+S]+D[+B]D[+BF][+S]+", by decide⟩

variable {w : Word}

theorem Rises.expand_succ_eq (rises : Rises w) (n : Nat) :
    ∃ u, standard.expand w (n + 1) = Word.ofText "D[+" ++ (standard.expand [.bud] n ++ u) := by
  obtain ⟨u, grown⟩ := rises.grown
  have stem : standard.expand (Word.ofText "D[+") n = Word.ofText "D[+" := expand_eq_self (by decide) n
  exact ⟨standard.expand u n, by rw [expand_succ, grown, expand_append, expand_append, stem]⟩

theorem Rises.exists_head (rises : Rises w) (n : Nat) :
    ∃ s u, standard.expand w n = s :: u ∧ s.action = .branch := by
  cases n with
  | zero => exact rises.segment
  | succ n =>
    obtain ⟨u, grown⟩ := rises.expand_succ_eq n
    have first : Word.ofText "D[+" = .internode :: Word.ofText "[+" := by decide
    rw [first, List.cons_append] at grown
    exact ⟨_, _, grown, rfl⟩

theorem climbs_stem : (Word.ofText "D[+").Climbs 1 := by
  constructor <;> decide

/-- After `k` branches the bud grows as it does in the passes that are left. -/
theorem exists_climb (k n : Nat) : ∃ (v u : Word),
    standard.expand [.bud] (k + n) = v ++ (standard.expand [.bud] n ++ u) ∧ v.Climbs k := by
  induction k with
  | zero =>
    refine ⟨[], [], ?_, climbs_nil⟩
    rw [Nat.zero_add, List.nil_append, List.append_nil]
  | succ k ih =>
    obtain ⟨v, u, expanded, climbs⟩ := ih
    obtain ⟨r, grown⟩ := rises_bud.expand_succ_eq (k + n)
    refine ⟨Word.ofText "D[+" ++ v, u ++ r, ?_, ?_⟩
    · rw [Nat.add_right_comm, grown, expanded]
      simp only [List.append_assoc]
    · rw [Nat.add_comm]
      exact climbs_stem.append climbs

/-- Up to the number of passes the word climbs as far as one likes, and then there is a segment. -/
theorem Rises.exists_segment (rises : Rises w) {k n : Nat} (le : k ≤ n) :
    ∃ (v : Word) (s : Symbol) (u : Word),
      standard.expand w n = v ++ s :: u ∧ s.action = .branch ∧ v.Climbs k := by
  cases k with
  | zero =>
    obtain ⟨s, u, expanded, segment⟩ := rises.exists_head n
    exact ⟨[], s, u, expanded, segment, climbs_nil⟩
  | succ k =>
    obtain ⟨n, rfl⟩ := Nat.exists_eq_add_of_le le
    obtain ⟨v, u, expanded, climbs⟩ := exists_climb k n
    obtain ⟨s, r, head, segment⟩ := rises_bud.exists_head n
    obtain ⟨rest, grown⟩ := rises.expand_succ_eq (k + n)
    refine ⟨Word.ofText "D[+" ++ v, s, r ++ (u ++ rest), ?_, segment, ?_⟩
    · rw [Nat.add_right_comm, grown, expanded, head]
      simp only [List.append_assoc, List.cons_append]
    · rw [Nat.add_comm]
      exact climbs_stem.append climbs

end RuleTable

end PlantGrammar
