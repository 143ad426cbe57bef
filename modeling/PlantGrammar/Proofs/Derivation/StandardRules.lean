import PlantGrammar.Proofs.Derivation.Passes
import PlantGrammar.Proofs.Word.Sites

/-!
# Growth by the standard rules

Up to the order of symbols, a pass of the standard rules leaves every bud and every shoot in the word.
To a bud it adds the symbols of a stem segment and of a side branch, always the same; to a shoot it
adds some symbols that stay and one more bud.  So a bud grows at a constant rate, a shoot at a rate
that increases by the same amount in each pass, and whatever is counted in an expansion, its number is
a quadratic polynomial in the number of passes (`RuleTable.countP_expand_standard`).

* `RuleTable.tally_branch_expand_standard`, `RuleTable.tally_flower_expand_standard`: segments and
  flowers.
* `RuleTable.length_expand_standard`: all symbols.
-/

namespace PlantGrammar

namespace RuleTable

/-- What a pass adds to a bud. -/
def budGrowth : Word := Word.ofText "D[+]"

/-- What a pass adds to a shoot, besides a bud. -/
def shootGrowth : Word := Word.ofText "D[+F][+]+"

theorem expand_budGrowth (n : Nat) : standard.expand budGrowth n = budGrowth :=
  expand_eq_self (by decide) n

theorem expand_shootGrowth (n : Nat) : standard.expand shootGrowth n = shootGrowth :=
  expand_eq_self (by decide) n

theorem perm_expand_bud (n : Nat) :
    (standard.expand [.bud] (n + 1)).Perm (standard.expand [.bud] n ++ budGrowth) := by
  have image : (standard.pass [.bud]).Perm ([Symbol.bud] ++ budGrowth) := by decide
  have grown := standard.expand_perm image n
  rwa [expand_append, expand_budGrowth, ← expand_succ] at grown

theorem perm_expand_shoot (n : Nat) :
    (standard.expand [.shoot] (n + 1)).Perm
      (standard.expand [.shoot] n ++ standard.expand [.bud] n ++ shootGrowth) := by
  have image : (standard.pass [.shoot]).Perm ([Symbol.shoot] ++ [Symbol.bud] ++ shootGrowth) := by decide
  have grown := standard.expand_perm image n
  rwa [expand_append, expand_append, expand_shootGrowth, ← expand_succ] at grown

/-! ### Counting -/

section

variable (p : Symbol → Bool)

theorem countP_expand_bud (n : Nat) :
    (standard.expand [.bud] n).countP p = List.countP p [.bud] + n * budGrowth.countP p := by
  induction n with
  | zero => simp
  | succ n ih =>
    rw [(perm_expand_bud n).countP_eq, List.countP_append, ih, Nat.succ_mul]
    omega

theorem countP_expand_shoot (n : Nat) :
    (standard.expand [.shoot] n).countP p = List.countP p [.shoot] +
      n * (List.countP p [.bud] + shootGrowth.countP p) + n.choose 2 * budGrowth.countP p := by
  induction n with
  | zero => simp
  | succ n ih =>
    have choose : (n + 1).choose 2 = n + n.choose 2 := by
      rw [Nat.choose_succ_succ', Nat.choose_one_right]
    rw [(perm_expand_shoot n).countP_eq, List.countP_append, List.countP_append, ih,
      countP_expand_bud, choose, Nat.succ_mul, Nat.add_mul]
    omega

/-- What is counted in an expansion: what was in the word, and what has been added to its buds and
shoots since. -/
theorem countP_expand_standard (w : Word) (n : Nat) :
    (standard.expand w n).countP p = w.countP p + w.count .bud * (n * budGrowth.countP p) +
      w.count .shoot * (n * (List.countP p [.bud] + shootGrowth.countP p) +
        n.choose 2 * budGrowth.countP p) := by
  induction w with
  | nil => simp
  | cons s w ih =>
    rw [← List.singleton_append, expand_append, List.countP_append, ih, List.countP_append,
      List.count_append, List.count_append, Nat.add_mul, Nat.add_mul]
    by_cases bud : s = .bud
    · subst bud
      rw [countP_expand_bud, List.count_singleton_self, List.count_singleton, if_neg nofun]
      omega
    · by_cases shoot : s = .shoot
      · subst shoot
        rw [countP_expand_shoot, List.count_singleton_self, List.count_singleton, if_neg nofun]
        omega
      · have fixed : standard.get? s = none := by
          rw [standard, insertAll, List.foldl_cons, List.foldl_cons, List.foldl_nil, get?_insert,
            if_neg shoot, get?_insert, if_neg bud, get?_empty]
        have no_bud : List.count .bud [s] = 0 := by simp [bud]
        have no_shoot : List.count .shoot [s] = 0 := by simp [shoot]
        rw [expand_singleton_of_get?_eq_none fixed, no_bud, no_shoot]
        omega

end

/-! ### Segments, flowers and length -/

theorem two_mul_choose_two (n : Nat) : 2 * n.choose 2 + n = n ^ 2 := by
  induction n with
  | zero => rfl
  | succ n ih =>
    have choose : (n + 1).choose 2 = n + n.choose 2 := by
      rw [Nat.choose_succ_succ', Nat.choose_one_right]
    have square : (n + 1) ^ 2 = n ^ 2 + 2 * n + 1 := by ring
    omega

theorem tally_branch_eq (w : Word) :
    w.tally .branch = w.count .internode + w.count .bud + w.count .shoot := by
  induction w with
  | nil => rfl
  | cons s w ih =>
    rw [Word.tally_cons, ih]
    cases s <;> simp [Symbol.action] <;> omega

theorem tally_flower_eq (w : Word) : w.tally .flower = w.count .flower := by
  induction w with
  | nil => rfl
  | cons s w ih =>
    rw [Word.tally_cons, ih]
    cases s <;> simp [Symbol.action]

/-- A bud grows one segment in each pass, a shoot one more each time. -/
theorem tally_branch_expand_standard (w : Word) (n : Nat) :
    (standard.expand w n).tally .branch =
      w.count .internode + w.count .bud * (n + 1) + w.count .shoot * ((n + 1) * (n + 2) / 2) := by
  have triangle : (n + 1) * (n + 2) / 2 = 1 + n * 2 + n.choose 2 := by
    have product : (n + 1) * (n + 2) = n ^ 2 + 3 * n + 2 := by ring
    have square := two_mul_choose_two n
    omega
  have before : w.countP (fun s => s.action = .branch) = w.tally .branch := rfl
  have bud : budGrowth.countP (fun s => s.action = .branch) = 1 := by decide
  have shoot : List.countP (fun s => s.action = .branch) [Symbol.bud] +
      shootGrowth.countP (fun s => s.action = .branch) = 2 := by decide
  rw [Word.tally, countP_expand_standard, before, tally_branch_eq, bud, shoot, triangle]
  ring

/-- Only shoots grow flowers, one in each pass. -/
theorem tally_flower_expand_standard (w : Word) (n : Nat) :
    (standard.expand w n).tally .flower = w.count .flower + w.count .shoot * n := by
  have before : w.countP (fun s => s.action = .flower) = w.tally .flower := rfl
  have bud : budGrowth.countP (fun s => s.action = .flower) = 0 := by decide
  have shoot : List.countP (fun s => s.action = .flower) [Symbol.bud] +
      shootGrowth.countP (fun s => s.action = .flower) = 1 := by decide
  rw [Word.tally, countP_expand_standard, before, tally_flower_eq, bud, shoot]
  simp

theorem length_eq_count (w : Word) :
    w.length = w.countP (fun s => s ≠ .bud ∧ s ≠ .shoot) + w.count .bud + w.count .shoot := by
  induction w with
  | nil => rfl
  | cons s w ih =>
    rw [List.length_cons, ih]
    cases s <;> simp <;> omega

theorem length_expand_standard (w : Word) (n : Nat) :
    (standard.expand w n).length = w.countP (fun s => s ≠ .bud ∧ s ≠ .shoot) +
      w.count .bud * (4 * n + 1) + w.count .shoot * (2 * n ^ 2 + 8 * n + 1) := by
  have polynomial : 2 * n ^ 2 + 8 * n + 1 = n * 10 + n.choose 2 * 4 + 1 := by
    have square := two_mul_choose_two n
    omega
  have bud : budGrowth.length = 4 := by decide
  have shoot : List.length [Symbol.bud] + shootGrowth.length = 10 := by decide
  have counted := countP_expand_standard (fun _ => true) w n
  simp only [List.countP_true] at counted
  rw [counted, length_eq_count, bud, shoot, polynomial]
  ring

end RuleTable

end PlantGrammar
