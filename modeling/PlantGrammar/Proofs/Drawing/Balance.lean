import Mathlib
import PlantGrammar.Proofs.Derivation.Brackets
import PlantGrammar.Proofs.Drawing.Failures
import PlantGrammar.Random.Scripted

/-!
# Balance and growth

A mesh that does not run out of indices is kept from being drawn by brackets only: by the first one
that closes a branch when none is open, or else by the branches left open at the end
(`Layout.obstacle_of_level`, `Layout.obstacle_of_unmatched`).  Since expansion by rules that keep
brackets changes nothing about these, whether a plant can be grown is seen from its seed, and so is
the place in the expanded word where it fails.

* `Species.grow_brackets`: growing succeeds exactly for balanced seeds, and otherwise fails at the
  end of the expansion of the part of the seed before its first surplus bracket, or of the whole
  seed if only branches are left open.
-/

namespace PlantGrammar

namespace Layout

variable {f : Flower} {v w : Word}

/-- A symbol that cannot be drawn either closes a branch that is not open or has no index left. -/
theorem offence_cases {s : Symbol} {e : GrowthError} (offends : offence f v s = some e) :
    (s.action = .pop ∧ v.tally .pop = v.tally .push ∧ e = .stackUnderflow v.length 0) ∨
      ∃ n, e = .indexOverflow n := by
  have overflow_cases {base largest : Nat} (h : MeshBuilder.overflow base largest = some e) :
      ∃ n, e = .indexOverflow n := by
    unfold MeshBuilder.overflow at h
    split at h
    · exact ⟨_, (Option.some.inj h).symm⟩
    · split at h
      · exact ⟨_, (Option.some.inj h).symm⟩
      · cases h
  unfold offence at offends
  cases act : s.action with
  | pop =>
    simp only [act, Option.ite_none_right_eq_some, Option.some.injEq] at offends
    exact .inl ⟨rfl, offends.1, offends.2.symm⟩
  | branch | flower =>
    rw [act] at offends
    exact .inr (overflow_cases offends)
  | push | turn | ignore =>
    rw [act] at offends
    cases offends

/-- A word that closes no branch that is not open is only kept from being drawn by its indices. -/
theorem firstOffence_eq_none {k : Nat} (counted : w.level 0 = some k)
    (fits : ∀ n, firstOffence f w ≠ some (.indexOverflow n)) : firstOffence f w = none := by
  cases first : firstOffence f w with
  | none => rfl
  | some e =>
    obtain ⟨⟨v, s⟩, site, offends⟩ := List.exists_of_findSome?_eq_some first
    rcases offence_cases offends with ⟨act, none_open, -⟩ | ⟨n, rfl⟩
    · obtain ⟨u, rfl⟩ := Word.mem_sites_iff.1 site
      have before : v ++ [s] <+: v ++ s :: u := ⟨u, by simp⟩
      have enough := (Word.level_eq_some_iff.1 counted).1 _ before
      simp only [Word.tally_append, Word.tally_singleton, act, reduceCtorEq, if_true,
        if_false] at enough none_open
      omega
    · exact absurd first (fits n)

theorem obstacle_of_level {k : Nat} (counted : w.level 0 = some k)
    (fits : ∀ n, obstacle f w ≠ some (.indexOverflow n)) :
    obstacle f w = if k = 0 then none else some (.stackUnderflow w.length k) := by
  have no_offence : firstOffence f w = none := by
    refine firstOffence_eq_none counted fun n first => fits n ?_
    rw [obstacle, first]
  obtain ⟨-, total⟩ := Word.level_eq_some_iff.1 counted
  have surplus : w.tally .push - w.tally .pop = k := by omega
  simp only [obstacle, no_offence, surplus]
  by_cases closed : k = 0
  · rw [if_pos closed, if_neg (by omega)]
  · rw [if_neg closed, if_pos (by omega)]

theorem obstacle_of_unmatched (balanced : v.Balanced)
    (fits : ∀ n, obstacle f (v ++ .pop :: w) ≠ some (.indexOverflow n)) :
    obstacle f (v ++ .pop :: w) = some (.stackUnderflow v.length 0) := by
  have before : firstOffence f v = none := by
    refine firstOffence_eq_none balanced fun n first => fits n ?_
    rw [obstacle, firstOffence_append, first, Option.some_or]
  have here : offence f v .pop = some (.stackUnderflow v.length 0) := if_pos balanced.tally_eq
  have first : firstOffence f (v ++ .pop :: w) = some (.stackUnderflow v.length 0) := by
    rw [firstOffence_append, before, Option.none_or, Word.sites, List.findSome?_cons,
      List.append_nil, here]
  rw [obstacle, first]

end Layout

namespace Species

open Layout

variable {σ : Type} [RandomSource σ]

/-- What keeps the expanded seed from being drawn decides whether a plant grows. -/
theorem mesh_grow_eq (sp : Species) (f : Flower) (source : σ) (j : Journal) :
    ∃ m, (sp.grow f source j).mesh =
      match obstacle f (sp.rules.expand sp.seedWord sp.habit.iterations.toNat) with
      | some e => .error e
      | none => .ok m := by
  rw [grow_eq, mesh_build_eq]
  exact ⟨_, rfl⟩

theorem mesh_grow_eq_error_iff {sp : Species} {f : Flower} {source : σ} {j : Journal}
    {e : GrowthError} :
    (sp.grow f source j).mesh = .error e ↔
      obstacle f (sp.rules.expand sp.seedWord sp.habit.iterations.toNat) = some e := by
  obtain ⟨m, grown⟩ := mesh_grow_eq sp f source j
  rw [grown]
  cases obstacle f (sp.rules.expand sp.seedWord sp.habit.iterations.toNat) <;> simp

/-- Rules that keep brackets, such as the standard ones, neither break nor repair the balance of the
seed.  Unless the mesh runs out of indices, a plant with a balanced seed grows; with a bracket that
closes no branch it fails at the place to which the part of the seed before that bracket grows, with
branches left open it fails at the end.  Prediction knows these places without growing anything. -/
theorem grow_brackets :
    RuleTable.standard.KeepsBrackets ∧
    ∀ {σ : Type} [RandomSource σ] (sp : Species) (f : Flower) (source : σ) (j : Journal),
      sp.rules.KeepsBrackets →
      (∀ v, (sp.grow f source j).mesh ≠ .error (.indexOverflow v)) →
      let seed := sp.seedWord
      let n := sp.habit.iterations.toNat
      ((∃ m, (sp.grow f source j).mesh = .ok m) ↔ seed.Balanced) ∧
      (∀ i, Word.Balanced (seed.take i) → seed[i]? = some .pop →
        (sp.grow f source j).mesh =
          .error (.stackUnderflow (sp.rules.expand (seed.take i) n).length 0)) ∧
      (∀ k, 0 < k → seed.level 0 = some k →
        (sp.grow f source j).mesh =
          .error (.stackUnderflow (sp.rules.expand seed n).length k)) ∧
      ∀ i, (sp.rules.expand (seed.take i) n).length < 2 ^ 64 - 1 →
        sp.rules.predictedLength (seed.take i) n = (sp.rules.expand (seed.take i) n).length := by
  refine ⟨RuleTable.keepsBrackets_standard, fun sp f source j keeps fits => ?_⟩
  intro seed n
  have room (v : Nat) : obstacle f (sp.rules.expand seed n) ≠ some (.indexOverflow v) :=
    fun stuck => fits v (mesh_grow_eq_error_iff.2 stuck)
  have same_level (w : Word) : (sp.rules.expand w n).level 0 = w.level 0 :=
    RuleTable.level_expand keeps 0 w n
  have unmatched (v u : Word) (division : seed = v ++ .pop :: u) (balanced : v.Balanced) :
      obstacle f (sp.rules.expand seed n) =
        some (.stackUnderflow (sp.rules.expand v n).length 0) := by
    rw [division, RuleTable.expand_unmatched keeps] at room ⊢
    exact obstacle_of_unmatched ((same_level v).trans balanced) room
  have open_branches (k : Nat) (counted : seed.level 0 = some k) :
      obstacle f (sp.rules.expand seed n) =
        if k = 0 then none else some (.stackUnderflow (sp.rules.expand seed n).length k) :=
    obstacle_of_level ((same_level seed).trans counted) room
  refine ⟨?_, fun i balanced bracket => ?_, fun k pos counted => ?_, fun i small => ?_⟩
  · obtain ⟨m, grown⟩ := mesh_grow_eq sp f source j
    rw [grown, Word.Balanced]
    cases counted : seed.level 0 with
    | none =>
      obtain ⟨v, u, division, balanced⟩ := Word.level_eq_none_iff.1 counted
      rw [unmatched v u division balanced]
      simp
    | some k =>
      rw [open_branches k counted]
      by_cases closed : k = 0 <;> simp [closed]
  · obtain ⟨inside, here⟩ := List.getElem?_eq_some_iff.1 bracket
    have division : seed = seed.take i ++ .pop :: seed.drop (i + 1) := by
      rw [← here, ← List.drop_eq_getElem_cons, List.take_append_drop]
    exact mesh_grow_eq_error_iff.2 (unmatched _ _ division balanced)
  · rw [mesh_grow_eq_error_iff, open_branches k counted, if_neg (Nat.ne_of_gt pos)]
  · exact RuleTable.predictedLength_of_lt small

/-- The surplus bracket is symbol 3 of the seed and symbol 11 of the word. -/
theorem grow_brackets_of_surplus :
    RuleTable.standard.KeepsBrackets ∧ Word.Balanced ((Word.ofText "[B]]S").take 3) ∧
    (grow { habit := { seed := "[B]]S" } } ⟨[.zero], [.zero], [0, 0, 0]⟩ (⟨[], 0⟩ : Scripted)
      (.start none)).mesh = .error (.stackUnderflow 11 0) := by
  have balanced : Word.Balanced ((Word.ofText "[B]]S").take 3) := by decide
  have drawn : obstacle ⟨[.zero], [.zero], [0, 0, 0]⟩
      (RuleTable.standard.expand (Word.ofText "[B]]S") 2) = some (.stackUnderflow 11 0) := by
    decide
  obtain ⟨keeps, grown⟩ := grow_brackets
  have fits (v : Nat) : (grow { habit := { seed := "[B]]S" } } ⟨[.zero], [.zero], [0, 0, 0]⟩
      (⟨[], 0⟩ : Scripted) (.start none)).mesh ≠ .error (.indexOverflow v) := by
    intro full
    have := drawn.symm.trans (mesh_grow_eq_error_iff.1 full)
    cases this
  exact ⟨keeps, balanced, (grown _ _ _ _ keeps fits).2.1 3 balanced (by decide)⟩

end Species

end PlantGrammar
