import PlantGrammar.Proofs.Derivation.Recording
import PlantGrammar.Proofs.Drawing.Draws
import PlantGrammar.Proofs.Drawing.Silence

/-!
# What growing a plant records

A walk draws a word up to the first symbol that fails (`Canvas.Reaches`) and records the segments and
flowers of that part, with the places and measures that a pen has for them (`Pen.events`).  The symbol
that fails leaves the journal as it is.  A mesh is recorded when it is complete.  Nothing reads the
journal, so that its verbosity decides only what is kept of all this.

* `Canvas.HasPen.gains_walk`: what a walk records.
* `Species.journal_grow`: the journal of a plant, for every verbosity.
-/

namespace PlantGrammar

/-! ### Pens -/

namespace Pen

variable {σ : Type} [RandomSource σ] (h : Habit) (f : Flower) (p : Pen σ)

/-- The event of a symbol that the pen draws, if it can be seen in the mesh. -/
def event? (s : Symbol) : Option Event :=
  match s.action with
  | .branch => some (.branch p.pose.position p.depth (p.segmentLength h) (h.branchWidth p.depth))
  | .flower => some (.flower p.pose.position f.vertexCount)
  | _ => none

/-- The events of a word, each for the pen that what stands before the symbol leaves. -/
def events (w : Word) : List Event := w.sites.filterMap fun q => (p.run h q.1).event? h f q.2

theorem events_cons (s : Symbol) (w : Word) :
    p.events h f (s :: w) = (p.event? h f s).toList ++ (p.step h s).events h f w := by
  rw [events, Word.sites, List.filterMap_cons, List.filterMap_map, run_nil]
  cases p.event? h f s <;> rfl

/-- There is one event for each segment and each flower. -/
theorem levels_events (w : Word) :
    (p.events h f w).map Event.level = List.replicate (w.tally .branch + w.tally .flower) .trace := by
  induction w generalizing p with
  | nil => rfl
  | cons s w ih =>
    rw [events_cons, List.map_append, ih, Word.tally_cons, Word.tally_cons, event?]
    cases act : s.action with
    | branch =>
      rw [if_pos rfl, if_neg (by decide), Nat.add_right_comm, List.replicate_succ]
      rfl
    | flower =>
      rw [if_pos rfl, if_neg (by decide), ← Nat.add_assoc, List.replicate_succ]
      rfl
    | push | pop | turn | ignore => rfl

end Pen

/-! ### Canvases -/

namespace Canvas

variable {σ : Type} [RandomSource σ] {c : Canvas σ} {p : Pen σ} {h : Habit} {f : Flower} {i : Nat}
  {v w : Word} {s : Symbol}

/-- Of the word `w` the part `v` is drawn: none of its symbols fails, and if there are others, the first
of these does. -/
structure Reaches (c : Canvas σ) (h : Habit) (f : Flower) (i : Nat) (w v : Word) : Prop where
  prefixed : v <+: w
  walked : (c.walk h f i v).failure = none
  stops : ∀ s, v ++ [s] <+: w → (c.walk h f i (v ++ [s])).failure ≠ none

theorem reaches_nil (c : Canvas σ) (h : Habit) (f : Flower) (i : Nat) : c.Reaches h f i [] [] :=
  ⟨List.prefix_refl [], rfl, fun s longer => absurd (List.prefix_nil.1 longer) (List.cons_ne_nil s [])⟩

theorem failure_walk_singleton (c : Canvas σ) :
    (c.walk h f i [s]).failure = none ↔ (c.step h f i s).failure = none := by
  rw [walk_cons, Outcome.failure_andThen_eq_none_iff]
  exact and_iff_left rfl

theorem reaches_of_failure (failed : (c.step h f i s).failure ≠ none) (w : Word) :
    c.Reaches h f i (s :: w) [] := by
  refine ⟨List.nil_prefix, rfl, fun s' first => ?_⟩
  obtain ⟨rfl, -⟩ := List.cons_prefix_cons.1 first
  exact (failure_walk_singleton c).not.2 failed

theorem reaches_cons_iff (ok : (c.step h f i s).failure = none) :
    c.Reaches h f i (s :: w) (s :: v) ↔ (c.step h f i s).canvas.Reaches h f (i + 1) w v := by
  have walk (u : Word) : (c.walk h f i (s :: u)).failure =
      ((c.step h f i s).canvas.walk h f (i + 1) u).failure := by
    rw [walk_cons, Outcome.andThen_of_failure_eq_none ok]
  constructor
  · rintro ⟨prefixed, walked, stops⟩
    refine ⟨(List.prefix_cons_inj s).1 prefixed, (walk v).symm.trans walked, fun s' longer => ?_⟩
    rw [← walk]
    exact stops s' ((List.prefix_cons_inj s).2 longer)
  · rintro ⟨prefixed, walked, stops⟩
    refine ⟨(List.prefix_cons_inj s).2 prefixed, (walk v).trans walked, fun s' longer => ?_⟩
    rw [List.cons_append, walk]
    exact stops s' ((List.prefix_cons_inj s).1 longer)

theorem exists_reaches (c : Canvas σ) (h : Habit) (f : Flower) (i : Nat) (w : Word) :
    ∃ v, c.Reaches h f i w v := by
  induction w generalizing c i with
  | nil => exact ⟨[], reaches_nil c h f i⟩
  | cons s w ih =>
    by_cases ok : (c.step h f i s).failure = none
    · obtain ⟨v, reaches⟩ := ih (c.step h f i s).canvas (i + 1)
      exact ⟨s :: v, (reaches_cons_iff ok).2 reaches⟩
    · exact ⟨[], reaches_of_failure ok w⟩

/-- How far a word is drawn does not depend on the journal. -/
theorem reaches_blank_of_journal {source : σ} {j : Journal}
    (reaches : (blank source j).Reaches h f 0 w v) (j' : Journal) :
    (blank source j').Reaches h f 0 w v := by
  obtain ⟨prefixed, walked, stops⟩ := reaches
  rw [failure_walk_blank] at walked
  refine ⟨prefixed, by rw [failure_walk_blank, walked], fun s longer => ?_⟩
  have failed := stops s longer
  rw [failure_walk_blank] at failed ⊢
  exact failed

/-- A symbol that is drawn is recorded if it has an event. -/
theorem HasPen.gains_step (pen : c.HasPen p) (ok : (c.step h f i s).failure = none) :
    c.journal.Gains (p.event? h f s).toList (c.step h f i s).canvas.journal := by
  obtain ⟨⟨poses⟩, builder, source, journal⟩ := c
  obtain ⟨pose, saved, _⟩ := p
  obtain ⟨same_poses, same_source⟩ := pen
  cases same_poses
  cases same_source
  unfold Pen.event?
  cases act : s.action with
  | push =>
    rw [step_push h f i act rfl]
    exact journal.gains_nil
  | pop =>
    cases saved with
    | nil =>
      rw [step_pop_root h f i act (by simp [Turtle.depth])] at ok
      cases ok
    | cons q saved =>
      rw [step_pop h f i act rfl]
      exact journal.gains_nil
  | branch =>
    rw [step_branch h f i act, branch_eq rfl] at ok ⊢
    split at ok
    · cases ok
    · exact journal.gains_record _
  | turn =>
    rw [step_turn h f i act, turn_eq rfl]
    exact journal.gains_nil
  | flower =>
    rw [step_flower h f i act, flower_eq rfl] at ok ⊢
    split at ok
    · cases ok
    · exact journal.gains_record _
  | ignore =>
    rw [step_ignore h f i act]
    exact journal.gains_nil

/-- A symbol that fails is not recorded. -/
theorem HasPen.journal_step (pen : c.HasPen p) (failed : (c.step h f i s).failure ≠ none) :
    (c.step h f i s).canvas.journal = c.journal := by
  have poses := pen.poses
  cases act : s.action with
  | push =>
    rw [step_push h f i act poses]
    rfl
  | pop =>
    rw [Canvas.step, act]
    dsimp only
    split <;> rfl
  | branch =>
    rw [step_branch h f i act, branch_eq poses] at failed ⊢
    split at failed
    · rfl
    · exact absurd rfl failed
  | turn =>
    rw [step_turn h f i act, turn_eq poses]
    rfl
  | flower =>
    rw [step_flower h f i act, flower_eq poses] at failed ⊢
    split at failed
    · rfl
    · exact absurd rfl failed
  | ignore =>
    rw [step_ignore h f i act]
    rfl

/-- A walk records what it draws before the first failure. -/
theorem HasPen.gains_walk (pen : c.HasPen p) (reaches : c.Reaches h f i w v) :
    c.journal.Gains (p.events h f v) (c.walk h f i w).canvas.journal := by
  induction w generalizing c p i v with
  | nil =>
    obtain rfl := List.prefix_nil.1 reaches.prefixed
    exact c.journal.gains_nil
  | cons s w ih =>
    rw [walk_cons]
    cases v with
    | nil =>
      have failed : (c.step h f i s).failure ≠ none :=
        (failure_walk_singleton c).not.1 (reaches.stops s ((List.prefix_cons_inj s).2 List.nil_prefix))
      obtain ⟨e, error⟩ := Option.ne_none_iff_exists'.1 failed
      rw [Outcome.andThen_of_failure_eq_some error, pen.journal_step failed]
      exact c.journal.gains_nil
    | cons s' v =>
      obtain ⟨rfl, -⟩ := List.cons_prefix_cons.1 reaches.prefixed
      have walked := reaches.walked
      rw [walk_cons, Outcome.failure_andThen_eq_none_iff] at walked
      have rest := ih (pen.step s' walked.1).1 ((reaches_cons_iff walked.1).1 reaches)
      rw [Outcome.andThen_of_failure_eq_none walked.1, Pen.events_cons]
      exact (pen.gains_step walked.1).append rest

end Canvas

/-! ### Species -/

namespace Species

variable {σ : Type} [RandomSource σ]

/-- The event of a complete mesh, if there is one. -/
def completion : Except GrowthError Mesh → List Event
  | .ok m => [.built m.vertexCount m.triangleCount]
  | .error _ => []

theorem levels_completion (mesh : Except GrowthError Mesh) :
    (completion mesh).map Event.level = if mesh.isOk then [.info] else [] := by
  cases mesh <;> rfl

theorem messages_completion (mesh : Except GrowthError Mesh) :
    (completion mesh).map Event.message = (mesh.toOption.map fun m =>
      s!"built plant mesh with {m.vertexCount} vertices, {m.triangleCount} triangles").toList := by
  cases mesh <;> rfl

theorem gains_build {sp : Species} {v w : Word} {f : Flower} {source : σ} {j : Journal}
    (reaches : (Canvas.blank source j).Reaches sp.habit f 0 w v) :
    j.Gains ((Pen.root source).events sp.habit f v ++ completion (sp.build w f source j).mesh)
      (sp.build w f source j).journal := by
  have walked := (Canvas.hasPen_blank source j).gains_walk reaches
  rw [build]
  generalize (Canvas.blank source j).walk sp.habit f 0 w = o at walked ⊢
  obtain ⟨c, _ | e⟩ := o
  · dsimp only
    split
    · exact walked.append (Journal.gains_nil _)
    · exact walked.record _
  · exact walked.append (Journal.gains_nil _)

/-- Nothing that is recorded has an influence on the plant. -/
theorem grow_of_journal (sp : Species) (f : Flower) (source : σ) (j j' : Journal) :
    (sp.grow f source j).mesh = (sp.grow f source j').mesh ∧
      (sp.grow f source j).source = (sp.grow f source j').source := by
  rw [grow_eq, grow_eq, source_build_eq, source_build_eq]
  exact ⟨mesh_build_of_journal sp _ f source _ _, rfl⟩

/-- Growing is recorded as the expansion of the seed and the drawing of the word. -/
theorem gains_grow (sp : Species) (f : Flower) (source : σ) :
    ∃ (k : Nat) (v : Word), sp.rules.Makes sp.seedWord sp.habit.iterations.toNat k ∧
      (∀ j, (Canvas.blank source j).Reaches sp.habit f 0
        (sp.rules.expand sp.seedWord sp.habit.iterations.toNat) v) ∧
      ∀ j : Journal, j.Gains (sp.expansionEvent :: (sp.rules.passEvents sp.seedWord 0 k ++
        ((Pen.root source).events sp.habit f v ++ completion (sp.grow f source j).mesh)))
        (sp.grow f source j).journal := by
  obtain ⟨k, makes, expanding⟩ := sp.gains_expand
  obtain ⟨v, reaches⟩ := Canvas.exists_reaches (Canvas.blank source (.start none)) sp.habit f 0
    (sp.rules.expand sp.seedWord sp.habit.iterations.toNat)
  have everywhere := Canvas.reaches_blank_of_journal reaches
  refine ⟨k, v, makes, everywhere, fun j => ?_⟩
  rw [grow_eq]
  exact (expanding j).append (gains_build (everywhere _))

/-- The journal of a plant of which everything is recorded has, in this order, the beginning of the
expansion with the predicted length, the passes that are made with the lengths of the words that they
leave, the segments and flowers that are drawn before the first symbol that fails, and the mesh if
there is one; their levels and their texts follow.  If all passes are made, and there are any, the
length of the last one was predicted, or the greatest that is counted.  A journal without verbosity is
empty, any other has what is at least as important as its verbosity, and the mesh or the error and what
is left of the random source are the same for all. -/
theorem journal_grow (sp : Species) (f : Flower) (source : σ) :
    let n := sp.habit.iterations.toNat
    let word (p : Nat) := sp.rules.expand sp.seedWord p
    let harvest (l : Option Level) := sp.grow f source (.start l)
    let log (l : Option Level) := (harvest l).journal.events.toList
    let mesh := (harvest (some .trace)).mesh
    let predicted := sp.rules.predictedLength sp.seedWord n
    (∃ (k : Nat) (v : Word), sp.rules.Makes sp.seedWord n k ∧
      (∀ j, (Canvas.blank source j).Reaches sp.habit f 0 (word n) v) ∧
      let passes := (List.range k).map fun p => Event.pass (p + 1) (word (p + 1)).length
      log (some .trace) = .expanding sp.habit.seed n predicted ::
        (passes ++ ((Pen.root source).events sp.habit f v ++ completion mesh)) ∧
      (log (some .trace)).map Event.level = .debug ::
        (List.replicate k .debug ++
          (List.replicate (v.tally .branch + v.tally .flower) .trace ++
            if mesh.isOk then [.info] else [])) ∧
      (log (some .trace)).map Event.message =
        ("expanding " ++ Text.quoted sp.habit.seed ++
          s!" for {n} passes, predicted {predicted} symbols") ::
        ((List.range k).map (fun p =>
            s!"expansion pass {p + 1}: {(word (p + 1)).length} symbols") ++
          (((Pen.root source).events sp.habit f v).map Event.message ++
            (mesh.toOption.map fun m =>
              s!"built plant mesh with {m.vertexCount} vertices, {m.triangleCount} triangles").toList)) ∧
      (k = n → 1 ≤ k →
        ∃ l, passes.getLast? = some (.pass k l) ∧ predicted = min (2 ^ 64 - 1) l)) ∧
    log none = [] ∧
    (∀ l : Level, log (some l) = (log (some .trace)).filter fun e => e.level.rank ≤ l.rank) ∧
    ∀ l, (harvest l).mesh = mesh ∧ (harvest l).source = (harvest (some .trace)).source := by
  intro n word harvest log mesh predicted
  obtain ⟨k, v, makes, reaches, gains⟩ := sp.gains_grow f source
  let passes := (List.range k).map fun p => Event.pass (p + 1) (word (p + 1)).length
  have recorded : sp.rules.passEvents sp.seedWord 0 k = passes := by
    simp only [passes, word, RuleTable.passEvents, Nat.zero_add]
  have same (l : Option Level) := sp.grow_of_journal f source (.start l) (.start (some .trace))
  have kept (l : Option Level) : log l = List.filter (fun e => Journal.admits l e.level)
      (.expanding sp.habit.seed n predicted ::
        (passes ++ ((Pen.root source).events sp.habit f v ++ completion mesh))) := by
    have gains := gains (.start l)
    rw [recorded, (same l).1] at gains
    exact gains.of_start
  have everything := (kept (some .trace)).trans (Journal.filter_admits_trace _)
  refine ⟨⟨k, v, makes, reaches, everything, ?_, ?_, ?_⟩, ?_, fun l => ?_, same⟩
  · rw [everything, List.map_cons, List.map_append, List.map_append, ← recorded,
      RuleTable.levels_passEvents, Pen.levels_events, levels_completion]
    rfl
  · rw [everything, List.map_cons, List.map_append, List.map_append, messages_completion, List.map_map]
    rfl
  · rintro rfl some_pass
    obtain ⟨k, last⟩ := Nat.exists_eq_add_of_le' some_pass
    refine ⟨(word n).length, ?_, ?_⟩
    · rw [last, List.range_succ, List.map_append, List.map_singleton, List.getLast?_concat]
    · rw [Nat.min_comm]
      exact sp.rules.predictedLength_eq_min sp.seedWord n
  · exact (kept none).trans (List.filter_false _)
  · rw [everything]
    exact kept (some l)

end Species

end PlantGrammar
