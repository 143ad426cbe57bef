import PlantGrammar.Drawing.Species
import PlantGrammar.Proofs.Word.Sites

/-!
# Runs of the turtle

A walk is a run of steps that ends at the first failure.  What single steps keep holds along the
whole walk: `Canvas.walk_preserves` for facts that steps keep also when they fail,
`Canvas.walk_invariant` for facts about the canvas and the word drawn so far that successful steps
keep.  When such a fact decides how the next step fails, the walk fails as the first step does that
is bound to (`Canvas.failure_walk_eq_findSome?`).
-/

namespace PlantGrammar

namespace Outcome

variable {σ : Type} {o : Outcome σ}

theorem andThen_of_failure_eq_none (ok : o.failure = none) (act : Canvas σ → Outcome σ) :
    o.andThen act = act o.canvas := by
  rw [andThen, ok]

theorem andThen_of_failure_eq_some {e : GrowthError} (failed : o.failure = some e)
    (act : Canvas σ → Outcome σ) : o.andThen act = o := by
  rw [andThen, failed]

theorem failure_andThen_eq_none_iff {act : Canvas σ → Outcome σ} :
    (o.andThen act).failure = none ↔ o.failure = none ∧ (act o.canvas).failure = none := by
  cases failed : o.failure with
  | none => simp [andThen_of_failure_eq_none failed]
  | some e => simp [andThen_of_failure_eq_some failed, failed]

end Outcome

namespace Canvas

variable {σ : Type} [RandomSource σ] {h : Habit} {f : Flower} {c : Canvas σ} {v w : Word}

section

/-! The word `v` is drawn already, so that its length is the position of the next symbol. -/

variable {P : Word → Canvas σ → Prop}
  (step : ∀ v c s, P v c → (c.step h f v.length s).failure = none →
    P (v ++ [s]) (c.step h f v.length s).canvas)

include step

theorem walk_invariant (start : P v c) (ok : (c.walk h f v.length w).failure = none) :
    P (v ++ w) (c.walk h f v.length w).canvas := by
  induction w generalizing v c with
  | nil =>
    rw [List.append_nil]
    exact start
  | cons s w ih =>
    rw [walk_cons, Outcome.failure_andThen_eq_none_iff] at ok
    rw [walk_cons, Outcome.andThen_of_failure_eq_none ok.1]
    have rest := ih (step v c s start ok.1)
    rw [List.length_append, List.append_assoc] at rest
    exact rest ok.2

theorem failure_walk_eq_findSome? {failure : Word → Symbol → Option GrowthError}
    (fails : ∀ v c s, P v c → (c.step h f v.length s).failure = failure v s) (start : P v c) :
    (c.walk h f v.length w).failure = w.sites.findSome? fun p => failure (v ++ p.1) p.2 := by
  induction w generalizing v c with
  | nil => rfl
  | cons s w ih =>
    have first := fails v c s start
    rw [walk_cons, Word.findSome?_sites_cons, ← first]
    cases failed : (c.step h f v.length s).failure with
    | none =>
      have rest := ih (step v c s start failed)
      rw [List.length_append] at rest
      rw [Outcome.andThen_of_failure_eq_none failed, Option.none_or]
      exact rest
    | some e => rw [Outcome.andThen_of_failure_eq_some failed, failed, Option.some_or]

end

end Canvas

namespace Species

variable {σ : Type} [RandomSource σ]

/-- The mesh of a word, in terms of how the walk over the word ends. -/
theorem mesh_build (sp : Species) (w : Word) (f : Flower) (source : σ) (j : Journal) :
    (sp.build w f source j).mesh =
      let o := (Canvas.blank source j).walk sp.habit f 0 w
      match o.failure with
      | some e => .error e
      | none =>
        if 1 < o.canvas.turtle.depth then
          .error (.stackUnderflow w.length (o.canvas.turtle.depth - 1))
        else
          .ok o.canvas.builder.finish := by
  rw [build]
  rcases (Canvas.blank source j).walk sp.habit f 0 w with ⟨c, _ | e⟩
  · dsimp only
    split
    · rfl
    · rfl
  · rfl

/-- A mesh is what a walk leaves in the builder that comes to the end of the word. -/
theorem walk_of_mesh_build {sp : Species} {w : Word} {f : Flower} {source : σ} {j : Journal}
    {m : Mesh} (ok : (sp.build w f source j).mesh = .ok m) :
    ((Canvas.blank source j).walk sp.habit f 0 w).failure = none ∧
    m = ((Canvas.blank source j).walk sp.habit f 0 w).canvas.builder.finish := by
  rw [mesh_build] at ok
  generalize (Canvas.blank source j).walk sp.habit f 0 w = o at ok ⊢
  obtain ⟨c, _ | e⟩ := o
  · dsimp only at ok
    split at ok
    · cases ok
    · cases ok
      exact ⟨rfl, rfl⟩
  · cases ok

omit [RandomSource σ] in
theorem expand_fst (sp : Species) (j : Journal) :
    (sp.expand j).1 = sp.rules.expand sp.seedWord sp.habit.iterations.toNat :=
  RuleTable.expandRecorded_fst ..

theorem grow_eq (sp : Species) (f : Flower) (source : σ) (j : Journal) :
    sp.grow f source j =
      sp.build (sp.rules.expand sp.seedWord sp.habit.iterations.toNat) f source (sp.expand j).2 := by
  rw [← sp.expand_fst j]
  rfl

/-- Growing draws the expanded seed; the rules have no further part in it. -/
theorem grow_eq_build (t : RuleTable) (h : Habit) (f : Flower) (source : σ) (j : Journal) :
    ∃ j', (⟨t, h⟩ : Species).grow f source j =
      build { habit := h } (t.expand (Word.ofText h.seed) h.iterations.toNat) f source j' :=
  ⟨_, grow_eq ⟨t, h⟩ f source j⟩

end Species

end PlantGrammar
