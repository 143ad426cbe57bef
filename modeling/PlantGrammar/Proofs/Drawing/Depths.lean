import PlantGrammar.Proofs.Derivation.Climbing
import PlantGrammar.Proofs.Derivation.Nesting
import PlantGrammar.Proofs.Drawing.Failures
import PlantGrammar.Proofs.Numeral.Counts

/-!
# Depths of the turtle

The turtle has a pose for the root and one for every branch that is open, so its depth exceeds 1 by no
more than the word is nested.  With each pass the depth can increase by what the replacements are
nested, which for the standard rules is 1.  A segment of a plant therefore lies no more branches deep
than there are passes, and the part of its length that it loses by its depth is at most 1, before
rounding and, up to `2 ^ 24 + 1` passes, after it.

* `Canvas.depth_walk_expand`: the depth in an expanded word, and how a segment tapers.
* `Canvas.lengthTaper_of_many_passes`: the first number of passes for which rounding matters.
-/

namespace PlantGrammar

namespace Habit

/-- What is taken from the length of a segment because of its depth. -/
def lengthTaper (h : Habit) (depth : Nat) : Float32 :=
  if h.iterations = 0 then 0 else (Float32.ofNat depth - 1) / h.iterations.toFloat32

/-- In single precision the depth, the depth less 1, the number of passes and the quotient are
rounded. -/
theorem lengthTaper_le_one {h : Habit} {depth : Nat} (pos : 0 < depth)
    (le : depth ≤ h.iterations.toNat + 1) (small : h.iterations.toNat ≤ 2 ^ 24 + 1) :
    h.lengthTaper depth ≤ 1 := by
  rw [lengthTaper]
  split
  · decide +kernel
  · next passes => exact Numeral.ofNat_sub_one_div_le_one pos le small passes

end Habit

namespace Layout

open MeshBuilder

/-- A word that closes no branch and has no flower can be drawn as far as the mesh has room for its
segments. -/
theorem firstOffence_eq_none_of_segments {w : Word} (f : Flower) (pop : w.tally .pop = 0)
    (flower : w.tally .flower = 0) (fits : 24 * w.tally .branch ≤ maxIndex) :
    firstOffence f w = none := by
  apply List.findSome?_eq_none_iff.2
  rintro ⟨v, s⟩ site
  obtain ⟨u, rfl⟩ := Word.mem_sites_iff.1 site
  rw [Word.tally_append, Word.tally_cons] at pop flower fits
  show offence f v s = none
  rw [offence]
  cases act : s.action with
  | pop => simp [act] at pop
  | flower => simp [act] at flower
  | branch =>
    have none_before : v.tally .flower = 0 := by omega
    rw [act, if_pos rfl] at fits
    apply overflow_eq_none_iff.2
    rw [vertices, none_before]
    omega
  | push | turn | ignore => rfl

end Layout

namespace Canvas

open Layout

variable {σ : Type} {c : Canvas σ} {f : Flower} {v w : Word}

theorem Drawn.depth_le (drawn : c.Drawn f v) (prefixed : v <+: w) :
    c.turtle.depth ≤ 1 + w.nesting := by
  have surplus := Word.nesting_le_iff.1 (Nat.le_refl w.nesting) v prefixed
  have depth := drawn.depth
  omega

variable [RandomSource σ]

/-- In a word that can be drawn, every symbol is reached. -/
theorem failure_walk_of_obstacle_eq_none (free : obstacle f (v ++ w) = none) (h : Habit) (source : σ)
    (j : Journal) : ((blank source j).walk h f 0 v).failure = none := by
  have failed := failure_walk_blank h f source j (v ++ w)
  rw [(obstacle_eq_none_iff.1 free).1, walk_append, Outcome.failure_andThen_eq_none_iff] at failed
  exact failed.1

theorem depth_walk_le (h : Habit) (f : Flower) (source : σ) (j : Journal)
    (reached : ((blank source j).walk h f 0 v).failure = none) (w : Word) :
    ((blank source j).walk h f 0 v).canvas.turtle.depth ≤ 1 + Word.nesting (v ++ w) :=
  ((drawn_blank source j f).walk reached).depth_le (List.prefix_append v w)

/-- The depth of the turtle at a symbol of an expanded word is bounded by the number of passes, for
all rules that keep brackets.  Under the standard rules, from a seed without brackets, a segment lies
in no more branches than there are passes, so that the part that its depth takes from its length is at
most 1.  Rounding keeps it so up to `2 ^ 24 + 1` passes. -/
theorem depth_walk_expand :
    (∀ {t : RuleTable} {k : Nat}, t.KeepsBrackets → t.NestsWithin k →
      ∀ {σ : Type} [RandomSource σ] (h : Habit) (f : Flower) (source : σ) (j : Journal)
        (seed v w : Word) (n : Nat), t.expand seed n = v ++ w →
        ((blank source j).walk h f 0 v).failure = none →
        ((blank source j).walk h f 0 v).canvas.turtle.depth ≤ 1 + seed.nesting + k * n) ∧
    ∀ {σ : Type} [RandomSource σ] (h : Habit) (f : Flower) (source : σ) (j : Journal)
      (v w : Word) (s : Symbol), Symbol.push ∉ Word.ofText h.seed →
      RuleTable.standard.expand (Word.ofText h.seed) h.iterations.toNat = v ++ s :: w →
      s.action = .branch → ((blank source j).walk h f 0 v).failure = none →
      let c := ((blank source j).walk h f 0 v).canvas
      let u := RandomSource.unitOfWord (RandomSource.next c.source).1
      c.segmentLength h = h.minLength + (u * (h.variation / 20) - h.variation / 50) -
        h.lengthTaper c.turtle.depth ∧
      c.turtle.depth - 1 ≤ h.iterations.toNat ∧
      ((c.turtle.depth - 1 : Nat) : ℚ) / h.iterations.toNat ≤ 1 ∧
      (h.iterations.toNat ≤ 2 ^ 24 + 1 → h.lengthTaper c.turtle.depth ≤ 1) := by
  have bound {t : RuleTable} {k : Nat} (keeps : t.KeepsBrackets) (nested : t.NestsWithin k)
      {σ : Type} [RandomSource σ] (h : Habit) (f : Flower) (source : σ) (j : Journal)
      (seed v w : Word) (n : Nat) (expanded : t.expand seed n = v ++ w)
      (reached : ((blank source j).walk h f 0 v).failure = none) :
      ((blank source j).walk h f 0 v).canvas.turtle.depth ≤ 1 + seed.nesting + k * n := by
    have depth := depth_walk_le h f source j reached w
    have nesting := RuleTable.nesting_expand_le keeps nested seed n
    rw [expanded] at nesting
    omega
  refine ⟨bound, ?_⟩
  intro σ _ h f source j v w s plain expanded _ reached c u
  have depth : c.turtle.depth ≤ 1 + (Word.ofText h.seed).nesting + 1 * h.iterations.toNat :=
    bound RuleTable.keepsBrackets_standard RuleTable.nestsWithin_standard h f source j _ _ _ _
      expanded reached
  rw [Word.nesting_eq_zero plain, Nat.one_mul, Nat.add_zero, Nat.add_comm] at depth
  have open_branches : c.turtle.depth - 1 ≤ h.iterations.toNat := Nat.sub_le_of_le_add depth
  have depth_pos : 0 < c.turtle.depth := ((drawn_blank source j f).walk reached).depth_pos
  refine ⟨rfl, open_branches, ?_, h.lengthTaper_le_one depth_pos depth⟩
  exact div_le_one_of_le₀ (by exact_mod_cast open_branches) (Nat.cast_nonneg _)

/-- After two passes the bud of the seed stands two branches deep, where the bounds are met. -/
theorem depth_walk_expand_of_two_passes :
    RuleTable.standard.KeepsBrackets ∧ RuleTable.standard.NestsWithin 1 ∧
    Symbol.push ∉ Word.ofText "B" ∧
    RuleTable.standard.expand (Word.ofText "B") 2 =
      Word.ofText "D[+D[+" ++ Symbol.bud :: Word.ofText "]]" ∧
    let h : Habit := { seed := "B" }
    let o := (blank (⟨[], 0⟩ : Scripted) (.start none)).walk h ⟨[], [], []⟩ 0 (Word.ofText "D[+D[+")
    o.failure = none ∧ o.canvas.turtle.depth ≤ 3 ∧ o.canvas.turtle.depth - 1 ≤ 2 ∧
      h.lengthTaper o.canvas.turtle.depth ≤ 1 := by
  have keeps := RuleTable.keepsBrackets_standard
  have nested := RuleTable.nestsWithin_standard
  have plain : Symbol.push ∉ Word.ofText "B" := by decide
  have expanded : RuleTable.standard.expand (Word.ofText "B") 2 =
      Word.ofText "D[+D[+" ++ Symbol.bud :: Word.ofText "]]" := by decide
  have free : obstacle ⟨[], [], []⟩ (Word.ofText "D[+D[+" ++ Symbol.bud :: Word.ofText "]]") = none := by
    decide
  have reached := failure_walk_of_obstacle_eq_none free { seed := "B" } (⟨[], 0⟩ : Scripted)
    (.start none)
  have depth := depth_walk_expand.1 keeps nested { seed := "B" } ⟨[], [], []⟩ (⟨[], 0⟩ : Scripted)
    (.start none) (Word.ofText "B") _ _ 2 expanded reached
  obtain ⟨-, open_branches, -, taper⟩ := depth_walk_expand.2 { seed := "B" } ⟨[], [], []⟩
    (⟨[], 0⟩ : Scripted) (.start none) _ _ .bud plain expanded rfl reached
  exact ⟨keeps, nested, plain, expanded, reached, depth, open_branches, taper (by decide)⟩

/-- Whatever the flower is, a climb is drawn, and the segment behind it. -/
theorem walk_of_climbs (h : Habit) (f : Flower) (source : σ) (j : Journal) {n : Nat} {s : Symbol}
    (climbs : v.Climbs n) (segment : s.action = .branch) (fits : 24 * (n + 1) ≤ MeshBuilder.maxIndex) :
    ((blank source j).walk h f 0 (v ++ [s])).failure = none ∧
      ((blank source j).walk h f 0 v).canvas.turtle.depth = n + 1 := by
  have reached : ((blank source j).walk h f 0 (v ++ [s])).failure = none := by
    rw [failure_walk_blank]
    apply firstOffence_eq_none_of_segments
    · simp [climbs.pop, segment]
    · simp [climbs.flower, segment]
    · simpa [climbs.branch, segment] using fits
  refine ⟨reached, ?_⟩
  rw [walk_append, Outcome.failure_andThen_eq_none_iff] at reached
  have depth := ((drawn_blank source j f).walk reached.1).depth
  rw [List.nil_append, climbs.pop, climbs.push] at depth
  exact depth

/-- In the word that a bud grows into, the turtle reaches the bud in the innermost branch and draws
it. -/
theorem exists_drawn_bud (h : Habit) (source : σ) (j : Journal) {n : Nat}
    (fits : 24 * (n + 1) ≤ MeshBuilder.maxIndex) :
    ∃ v w, RuleTable.standard.expand [.bud] n = v ++ Symbol.bud :: w ∧
      let o := (blank source j).walk h ⟨[], [], []⟩ 0 v
      o.failure = none ∧ (o.canvas.branch h).failure = none ∧ o.canvas.turtle.depth = n + 1 := by
  obtain ⟨v, w, expanded, climbs⟩ := RuleTable.exists_climb n 0
  obtain ⟨reached, depth⟩ := walk_of_climbs h ⟨[], [], []⟩ source j (s := .bud) climbs rfl fits
  rw [walk_append, Outcome.failure_andThen_eq_none_iff, walk_cons,
    Outcome.failure_andThen_eq_none_iff] at reached
  exact ⟨v, w, expanded, reached.1, reached.2.1, depth⟩

/-- The taper of the innermost bud after `2 ^ 24 + 2` passes: its depth is rounded up, and the number
of passes is not. -/
theorem lengthTaper_of_many_passes :
    ∃ v w : Word, RuleTable.standard.expand (Word.ofText "B") 16777218 = v ++ Symbol.bud :: w ∧
      let h : Habit := { seed := "B", iterations := 16777218 }
      let o := (blank (⟨[], 0⟩ : Scripted) (.start none)).walk h ⟨[], [], []⟩ 0 v
      o.failure = none ∧ (o.canvas.branch h).failure = none ∧
        o.canvas.turtle.depth = 16777219 ∧ ¬ h.lengthTaper o.canvas.turtle.depth ≤ 1 := by
  have seed : Word.ofText "B" = [.bud] := by decide
  obtain ⟨v, w, expanded, reached, drawn, depth⟩ :=
    exists_drawn_bud { seed := "B", iterations := 16777218 } (⟨[], 0⟩ : Scripted) (.start none)
      (n := 16777218) (by decide)
  refine ⟨v, w, by rw [seed, expanded], reached, drawn, depth, ?_⟩
  rw [depth]
  decide +kernel

end Canvas

end PlantGrammar
