import PlantGrammar.Derivation.Recorded
import PlantGrammar.Drawing.Species
import PlantGrammar.Proofs.Derivation.Lengths

/-!
# What an expansion records

A journal gains the events that its verbosity admits, in the order in which they happen
(`Journal.Gains`), so what happens can be said once for all verbosities.  An expansion records its
beginning, with the predicted length, and then its passes, each with the length of the word that it
leaves.  It makes all passes or, if nothing is left of the word before, as many as that takes
(`RuleTable.Makes`).

* `RuleTable.gains_expandRecorded`: the passes that are recorded are those that are made.
* `Species.gains_expand`: what the expansion of a seed records.
-/

namespace PlantGrammar

namespace Journal

/-- Of the events that have happened since, the journal has those that its verbosity admits. -/
structure Gains (j : Journal) (es : List Event) (j' : Journal) : Prop where
  verbosity : j'.verbosity = j.verbosity
  events : j'.events.toList = j.events.toList ++ es.filter fun e => admits j.verbosity e.level

variable {j j' j'' : Journal} {es es' : List Event}

theorem gains_nil (j : Journal) : j.Gains [] j := ⟨rfl, (List.append_nil _).symm⟩

theorem gains_record (j : Journal) (e : Event) : j.Gains [e] (j.record e) :=
  ⟨j.verbosity_record e, j.toList_events_record e⟩

theorem Gains.append (first : j.Gains es j') (second : j'.Gains es' j'') :
    j.Gains (es ++ es') j'' := by
  refine ⟨second.verbosity.trans first.verbosity, ?_⟩
  rw [second.events, first.verbosity, first.events, List.filter_append, List.append_assoc]

theorem Gains.record (gains : j.Gains es j') (e : Event) : j.Gains (es ++ [e]) (j'.record e) :=
  gains.append (gains_record j' e)

/-- A journal that was empty has nothing else. -/
theorem Gains.of_start {l : Option Level} (gains : (start l).Gains es j') :
    j'.events.toList = es.filter fun e => admits l e.level :=
  gains.events

/-- Nothing is less important than a trace. -/
theorem filter_admits_trace (es : List Event) :
    (es.filter fun e => admits (some .trace) e.level) = es := by
  apply List.filter_eq_self.2
  intro e _
  cases e.level <;> rfl

end Journal

namespace RuleTable

variable {t : RuleTable} {w : Word} {n k : Nat}

/-- Of `n` passes over the word `k` are made: all, or those before which something is left of it. -/
structure Makes (t : RuleTable) (w : Word) (n k : Nat) : Prop where
  le : k ≤ n
  grown : ∀ p < k, t.expand w p ≠ []
  ended : k < n → t.expand w k = []

theorem makes_zero (t : RuleTable) (w : Word) : t.Makes w 0 0 :=
  ⟨Nat.le_refl 0, fun _ less => absurd less (Nat.not_lt_zero _),
    fun less => absurd less (Nat.lt_irrefl 0)⟩

theorem makes_nil (t : RuleTable) (n : Nat) : t.Makes [] n 0 :=
  ⟨Nat.zero_le n, fun _ less => absurd less (Nat.not_lt_zero _), fun _ => rfl⟩

theorem makes_succ (something : w ≠ []) (makes : t.Makes (t.pass w) n k) :
    t.Makes w (n + 1) (k + 1) where
  le := Nat.succ_le_succ makes.le
  grown p less := by
    cases p with
    | zero => exact something
    | succ p =>
      rw [expand_succ]
      exact makes.grown p (Nat.lt_of_succ_lt_succ less)
  ended less := by
    rw [expand_succ]
    exact makes.ended (Nat.lt_of_succ_lt_succ less)

/-- The events of `k` passes over the word, when `number` passes have been made before. -/
def passEvents (t : RuleTable) (w : Word) (number k : Nat) : List Event :=
  (List.range k).map fun p => .pass (number + (p + 1)) (t.expand w (p + 1)).length

theorem passEvents_succ (t : RuleTable) (w : Word) (number k : Nat) :
    t.passEvents w number (k + 1) =
      .pass (number + 1) (t.pass w).length :: t.passEvents (t.pass w) (number + 1) k := by
  have first : t.expand w (0 + 1) = t.pass w := expand_succ t w 0
  have later (p : Nat) : Event.pass (number + (p + 1 + 1)) (t.expand w (p + 1 + 1)).length =
      .pass (number + 1 + (p + 1)) (t.expand (t.pass w) (p + 1)).length := by
    rw [expand_succ, Nat.add_right_comm number 1, Nat.add_assoc number]
  rw [passEvents, passEvents, List.range_succ_eq_map, List.map_cons, List.map_map, first]
  exact congrArg _ (List.map_congr_left fun p _ => later p)

theorem levels_passEvents (t : RuleTable) (w : Word) (number k : Nat) :
    (t.passEvents w number k).map Event.level = List.replicate k .debug := by
  have each (p : Nat) : (Event.pass (number + (p + 1)) (t.expand w (p + 1)).length).level = .debug := rfl
  simp only [passEvents, List.map_map, Function.comp_def, each, List.map_const', List.length_range]

/-- The passes that are made are recorded, each with the length of the word that it leaves. -/
theorem gains_expandRecorded (t : RuleTable) (w : Word) (n : Nat) :
    ∃ k, t.Makes w n k ∧
      ∀ (number : Nat) (j : Journal), j.Gains (t.passEvents w number k) (t.expandRecorded w number j n).2 := by
  induction n generalizing w with
  | zero => exact ⟨0, makes_zero t w, fun _ j => j.gains_nil⟩
  | succ n ih =>
    cases w with
    | nil => exact ⟨0, makes_nil t _, fun _ j => j.gains_nil⟩
    | cons s w =>
      obtain ⟨k, makes, gains⟩ := ih (t.pass (s :: w))
      refine ⟨k + 1, makes_succ (List.cons_ne_nil s w) makes, fun number j => ?_⟩
      rw [passEvents_succ]
      exact (j.gains_record _).append (gains (number + 1) _)

/-- A bud that withers leaves nothing for the other four passes. -/
example : ((RuleTable.empty.insert .bud []).expandRecorded [.bud] 0 (.start (some .debug)) 5).2.events =
    #[.pass 1 0] := by
  decide +kernel

end RuleTable

namespace Species

/-- The event with which the expansion of the seed begins. -/
def expansionEvent (sp : Species) : Event :=
  .expanding sp.habit.seed sp.habit.iterations.toNat
    (sp.rules.predictedLength sp.seedWord sp.habit.iterations.toNat)

/-- The expansion of the seed is recorded with its predicted length, followed by its passes. -/
theorem gains_expand (sp : Species) :
    ∃ k, sp.rules.Makes sp.seedWord sp.habit.iterations.toNat k ∧
      ∀ j : Journal, j.Gains (sp.expansionEvent :: sp.rules.passEvents sp.seedWord 0 k) (sp.expand j).2 := by
  obtain ⟨k, makes, gains⟩ :=
    sp.rules.gains_expandRecorded sp.seedWord sp.habit.iterations.toNat
  refine ⟨k, makes, fun j => ?_⟩
  exact (j.gains_record sp.expansionEvent).append (gains 0 _)

end Species

end PlantGrammar
