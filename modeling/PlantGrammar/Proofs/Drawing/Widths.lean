import PlantGrammar.Proofs.Drawing.Depths
import PlantGrammar.Proofs.Numeral.Differences

/-!
# Widths of segments

A segment loses the same width for each unit of its depth, and nothing keeps what is left above 0.  By
default it is above 0 up to depth 4 and below 0 from depth 5 on (`Habit.branchWidth_pos_iff`).  With
each pass of the standard rules plants grow one branch deeper, and segments are drawn at every depth
that there is, before the first flower (`Canvas.drawsSegment_of_le`).  So the segments of a plant have
width if it has grown for three passes or less.

* `Canvas.drawsSegment_standard`: the depths of the segments, and which of these have width.
-/

namespace PlantGrammar

namespace Habit

open Numeral

/-- The width of a segment at depth 0. -/
def defaultWidth : Normalized := ⟨11744051, -24, by decide, by decide, by decide, by decide⟩

theorem unpack_defaultWidth : (0.7 : Float32).toModel.unpack = defaultWidth.unpacked := rfl

theorem not_branchWidth_pos {h : Habit} {d : Nat} (base : h.baseWidth = 0.7) (taper : h.widthTaper = 7)
    (deep : 5 ≤ d) (small : d < 2 ^ 64) : ¬ 0 < h.branchWidth d := by
  obtain ⟨x, dividend, far, le⟩ := exists_unpack_ofNat (by decide) deep (by decide) small
  have divisor : (7 : Float32).toModel.unpack = _ :=
    (counts_ofNat (n := 7) (by decide) (by decide)).unpack
  have seven_mantissa : (Normalized.ofNat 7 (by decide) (by decide)).mantissa = 14680064 := by decide
  have seven_exponent : (Normalized.ofNat 7 (by decide) (by decide)).exponent = -21 := by decide
  have five_mantissa : (Normalized.ofNat 5 (by decide) (by decide)).mantissa = 10485760 := by decide
  have five_exponent : (Normalized.ofNat 5 (by decide) (by decide)).exponent = -21 := by decide
  have width_mantissa : defaultWidth.mantissa = 11744051 := rfl
  have width_exponent : defaultWidth.exponent = -24 := rfl
  rw [branchWidth, base, taper]
  apply not_zero_lt_sub_div unpack_defaultWidth dividend divisor
  · obtain less | ⟨equal, -⟩ := le <;> omega
  · omega
  · -- five sevenths are more than the default width
    obtain less | ⟨equal, le⟩ := le
    · exact .inl (by omega)
    · refine .inr ⟨by omega, ?_⟩
      rw [width_mantissa, seven_mantissa]
      omega

/-- Depths are far below this limit. -/
theorem branchWidth_pos_iff {h : Habit} {d : Nat} (base : h.baseWidth = 0.7) (taper : h.widthTaper = 7)
    (small : d < 2 ^ 64) : 0 < h.branchWidth d ↔ d ≤ 4 := by
  constructor
  · intro pos
    by_contra deep
    exact not_branchWidth_pos base taper (by omega) small pos
  · intro shallow
    rw [branchWidth, base, taper]
    interval_cases d <;> decide +kernel

end Habit

/-! ### Depths -/

namespace Canvas

variable {σ : Type} [RandomSource σ] {h : Habit} {f : Flower} {source : σ} {j : Journal} {w : Word}
  {n d : Nat}

/-- While the word is walked, a segment is drawn at the given depth. -/
def DrawsSegment (h : Habit) (f : Flower) (source : σ) (j : Journal) (w : Word) (d : Nat) : Prop :=
  ∃ v s u, w = v ++ s :: u ∧ s.action = .branch ∧
    ((blank source j).walk h f 0 (v ++ [s])).failure = none ∧
    ((blank source j).walk h f 0 v).canvas.turtle.depth = d

theorem DrawsSegment.bounds (draws : DrawsSegment h f source j w d) : 0 < d ∧ d ≤ 1 + w.nesting := by
  obtain ⟨v, s, u, rfl, -, reached, rfl⟩ := draws
  rw [walk_append, Outcome.failure_andThen_eq_none_iff] at reached
  exact ⟨((drawn_blank source j f).walk reached.1).depth_pos, depth_walk_le h f source j reached.1 _⟩

/-- Whatever the flower is, every depth up to the number of passes is reached before the first
one. -/
theorem drawsSegment_of_le (rises : RuleTable.Rises w) (pos : 0 < d) (le : d ≤ n + 1)
    (fits : 24 * d ≤ MeshBuilder.maxIndex) :
    DrawsSegment h f source j (RuleTable.standard.expand w n) d := by
  obtain ⟨k, rfl⟩ := Nat.exists_eq_add_of_le' pos
  obtain ⟨v, s, u, expanded, segment, climbs⟩ := rises.exists_segment (Nat.le_of_succ_le_succ le)
  obtain ⟨reached, depth⟩ := walk_of_climbs h f source j climbs segment fits
  exact ⟨v, s, u, expanded, segment, reached, depth⟩

theorem drawsSegment_seed_of_le (h : Habit) (f : Flower) (source : σ) (j : Journal) (pos : 0 < d)
    (le : d ≤ n + 1) (fits : 24 * d ≤ MeshBuilder.maxIndex) :
    DrawsSegment h f source j (RuleTable.standard.expand (Word.ofText "SDSBS") n) d :=
  drawsSegment_of_le RuleTable.rises_seed pos le fits

/-- A plant with the default measures and the standard rules has its segments at depths from 1 to one
more than the number of passes.  Those up to depth 4 have a width above 0 and the others have not, so
that all have if there are no more than three passes; with four passes or more there are some
without, whatever the flower and the random source are. -/
theorem drawsSegment_standard (n : UInt32) (f : Flower) (source : σ) (j j' : Journal) :
    let sp : Species := { habit := { iterations := n } }
    let w := (sp.expand j).1
    (∀ d, DrawsSegment sp.habit f source j' w d →
      1 ≤ d ∧ d ≤ n.toNat + 1 ∧ (0 < sp.habit.branchWidth d ↔ d ≤ 4)) ∧
    ((∀ d, DrawsSegment sp.habit f source j' w d → 0 < sp.habit.branchWidth d) ↔ n.toNat ≤ 3) := by
  intro sp w
  have expanded : w = RuleTable.standard.expand (Word.ofText "SDSBS") n.toNat := sp.expand_fst j
  have nesting : w.nesting ≤ n.toNat := by
    have plain : Symbol.push ∉ Word.ofText "SDSBS" := by decide
    have bound := RuleTable.nesting_expand_le RuleTable.keepsBrackets_standard
      RuleTable.nestsWithin_standard (Word.ofText "SDSBS") n.toNat
    rwa [← expanded, Word.nesting_eq_zero plain, Nat.one_mul, Nat.zero_add] at bound
  have passes : n.toNat < 2 ^ 32 := n.toNat_lt
  have width {d : Nat} (small : d ≤ n.toNat + 1) : 0 < sp.habit.branchWidth d ↔ d ≤ 4 :=
    Habit.branchWidth_pos_iff rfl rfl (by omega)
  have depths (d : Nat) (draws : DrawsSegment sp.habit f source j' w d) :
      1 ≤ d ∧ d ≤ n.toNat + 1 := by
    have bounds := draws.bounds
    omega
  refine ⟨fun d draws => ?_, fun all => ?_, fun few d draws => ?_⟩
  · obtain ⟨pos, le⟩ := depths d draws
    exact ⟨pos, le, width le⟩
  · by_contra many
    have five : 5 ≤ n.toNat + 1 := by omega
    have draws : DrawsSegment sp.habit f source j' w 5 := by
      rw [expanded]
      exact drawsSegment_seed_of_le _ f source j' (by decide) five (by decide)
    have shallow := (width five).1 (all 5 draws)
    omega
  · have le := (depths d draws).2
    exact (width le).2 (by omega)

/-- After four passes a segment is drawn at depth 5, with a width below 0. -/
theorem drawsSegment_of_four_passes :
    let sp : Species := { habit := { iterations := 4 } }
    DrawsSegment sp.habit ⟨[], [], []⟩ (⟨[], 0⟩ : Scripted) (.start none) (sp.expand (.start none)).1 5 ∧
      sp.habit.branchWidth 5 < 0 ∧ ¬ 0 < sp.habit.branchWidth 5 := by
  intro sp
  have expanded : (sp.expand (.start none)).1 = RuleTable.standard.expand (Word.ofText "SDSBS") 4 :=
    sp.expand_fst _
  have draws := drawsSegment_seed_of_le sp.habit ⟨[], [], []⟩ (⟨[], 0⟩ : Scripted) (.start none)
    (d := 5) (n := 4) (by decide) (by decide) (by decide)
  rw [expanded]
  exact ⟨draws, by decide +kernel, by decide +kernel⟩

end Canvas

end PlantGrammar
