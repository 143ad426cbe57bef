import PlantGrammar.Proofs.Drawing.Pens
import PlantGrammar.Random.Scripted

/-!
# Random words drawn

A segment takes one random word and a turn takes two, whether or not a later symbol fails; a segment
takes its word also when it fails itself.  So how much of the random source is used up follows from
the symbols that are executed (`Layout.executed`), and nothing depends on the words behind.

* `Canvas.Drawn.source_walk`: a walk leaves the source without the words of the executed symbols.
* `Pen.strokes_eq_of_agree`: pens whose sources agree on the words of a word draw the same.
* `Species.build_draws`: both for the mesh of a word.
-/

namespace PlantGrammar

/-! ### Sources -/

namespace RandomSource

variable {σ τ : Type} [RandomSource σ] [RandomSource τ]

theorem after_add (m n : Nat) (s : σ) : after (m + n) s = after n (after m s) := by
  induction m generalizing s with
  | zero => rw [Nat.zero_add, after]
  | succ m ih => rw [Nat.succ_add, after, ih, after]

theorem word_after (m n : Nat) (s : σ) : word (after m s) n = word s (m + n) := by
  rw [word, word, after_add]

/-- The first `n` words of the sources are the same. -/
def Agree (n : Nat) (s : σ) (s' : τ) : Prop := ∀ i < n, word s i = word s' i

variable {m n : Nat} {s : σ} {s' : τ}

theorem Agree.left (agree : Agree (m + n) s s') : Agree m s s' := fun i hi =>
  agree i (Nat.lt_add_right n hi)

theorem Agree.right (agree : Agree (m + n) s s') : Agree n (after m s) (after m s') := by
  intro i hi
  rw [word_after, word_after]
  exact agree (m + i) (Nat.add_lt_add_left hi m)

theorem after_counted (k : Nat) (s : σ) (n : Nat) :
    after k (⟨s, n⟩ : Counted σ) = ⟨after k s, n + k⟩ := by
  induction k generalizing s n with
  | zero => rfl
  | succ k ih =>
    rw [after, after, Nat.add_comm k, ← Nat.add_assoc]
    exact ih _ _

end RandomSource

open RandomSource

/-! ### Words -/

/-- How many random words a symbol takes. -/
def Symbol.draws (s : Symbol) : Nat :=
  match s.action with
  | .branch => 1
  | .turn => 2
  | _ => 0

/-- How many random words the symbols of a word take. -/
def Word.draws (w : Word) : Nat := w.tally .branch + 2 * w.tally .turn

theorem Word.draws_cons (s : Symbol) (w : Word) : draws (s :: w) = s.draws + draws w := by
  rw [draws, draws, Word.tally_cons, Word.tally_cons, Symbol.draws]
  cases s.action <;> simp <;> omega

theorem Word.draws_append (v w : Word) : draws (v ++ w) = draws v + draws w := by
  rw [draws, draws, draws, Word.tally_append, Word.tally_append]
  omega

namespace Layout

/-- The symbols of a word that are executed when `v` has been drawn before it: all of them, or those
up to and including the first that cannot be drawn. -/
def executed (f : Flower) (v : Word) : Word → Word
  | [] => []
  | s :: w => s :: if (offence f v s).isSome then [] else executed f (v ++ [s]) w

theorem executed_eq_self {f : Flower} {v w : Word}
    (free : (w.sites.findSome? fun p => offence f (v ++ p.1) p.2) = none) :
    executed f v w = w := by
  induction w generalizing v with
  | nil => rfl
  | cons s w ih =>
    rw [Word.findSome?_sites_cons, Option.or_eq_none_iff] at free
    obtain ⟨first, later⟩ := free
    rw [executed, first, ih later]
    rfl

end Layout

/-! ### Canvases -/

namespace Canvas

open Layout

variable {σ : Type} [RandomSource σ] {c : Canvas σ} {h : Habit} {f : Flower} {v : Word}

/-- Also a step that fails takes its words. -/
theorem source_step (posed : 0 < c.turtle.depth) (i : Nat) (s : Symbol) :
    (c.step h f i s).canvas.source = after s.draws c.source := by
  obtain ⟨p, ps, poses⟩ : ∃ p ps, c.turtle.poses = p :: ps := List.exists_cons_of_length_pos posed
  unfold Symbol.draws
  cases act : s.action with
  | push => rw [step_push h f i act poses]; rfl
  | pop =>
    cases ps with
    | nil => rw [step_pop_root h f i act (by simp [Turtle.depth, poses])]; rfl
    | cons q ps => rw [step_pop h f i act poses]; rfl
  | branch =>
    rw [step_branch h f i act, branch_eq poses]
    split <;> rfl
  | turn => rw [step_turn h f i act, turn_eq poses]; rfl
  | flower =>
    rw [step_flower h f i act, flower_eq poses]
    split <;> rfl
  | ignore => rw [step_ignore h f i act]; rfl

theorem Drawn.source_walk (drawn : c.Drawn f v) (h : Habit) (w : Word) :
    (c.walk h f v.length w).canvas.source = after (executed f v w).draws c.source := by
  induction w generalizing v c with
  | nil => rfl
  | cons s w ih =>
    have failure := drawn.failure_step h s
    have source := source_step (h := h) (f := f) drawn.depth_pos v.length s
    rw [walk_cons, executed]
    cases offends : offence f v s with
    | none =>
      rw [offends] at failure
      have rest := ih (drawn.step s failure)
      rw [List.length_append, List.length_singleton] at rest
      rw [Outcome.andThen_of_failure_eq_none failure, rest, source, ← after_add,
        ← Word.draws_cons]
      rfl
    | some e =>
      rw [offends] at failure
      rw [Outcome.andThen_of_failure_eq_some failure, source, Option.isSome_some, if_pos rfl,
        Word.draws_cons]
      rfl

end Canvas

/-! ### Pens -/

namespace Pen

variable {σ τ : Type} [RandomSource σ] [RandomSource τ] {p : Pen σ} {q : Pen τ}

/-- The pens have the same poses. -/
structure SamePoses (p : Pen σ) (q : Pen τ) : Prop where
  pose : p.pose = q.pose
  saved : p.saved = q.saved

omit [RandomSource σ] [RandomSource τ] in
theorem samePoses_root (s : σ) (s' : τ) : (root s).SamePoses (root s') := ⟨rfl, rfl⟩

theorem source_step (h : Habit) (p : Pen σ) (s : Symbol) :
    (p.step h s).source = after s.draws p.source := by
  unfold step Symbol.draws
  cases s.action with
  | pop => cases p.saved <;> rfl
  | push | branch | turn | flower | ignore => rfl

theorem source_run (h : Habit) (p : Pen σ) (w : Word) :
    (p.run h w).source = after w.draws p.source := by
  induction w generalizing p with
  | nil => rfl
  | cons s w ih => rw [run_cons, ih, source_step, ← after_add, Word.draws_cons]

theorem SamePoses.segmentLength (same : p.SamePoses q) (agree : Agree 1 p.source q.source)
    (h : Habit) : p.segmentLength h = q.segmentLength h := by
  have word : (next p.source).1 = (next q.source).1 := agree 0 Nat.one_pos
  rw [Pen.segmentLength, Pen.segmentLength, depth, depth, same.saved, word]

theorem SamePoses.stroke (same : p.SamePoses q) {s : Symbol}
    (agree : Agree s.draws p.source q.source) (h : Habit) (f : Flower) :
    p.stroke h f s = q.stroke h f s := by
  unfold Symbol.draws at agree
  unfold Pen.stroke
  cases act : s.action with
  | branch =>
    rw [act] at agree
    simp only [same.segmentLength agree, same.pose, depth, same.saved]
  | flower => simp only [same.pose]
  | push | pop | turn | ignore => rfl

theorem SamePoses.step (same : p.SamePoses q) {s : Symbol}
    (agree : Agree s.draws p.source q.source) (h : Habit) :
    (p.step h s).SamePoses (q.step h s) := by
  obtain ⟨pose, saved, source⟩ := p
  obtain ⟨_, _, source'⟩ := q
  obtain ⟨rfl, rfl⟩ := same
  unfold Symbol.draws at agree
  unfold Pen.step
  cases act : s.action with
  | push => exact ⟨rfl, rfl⟩
  | pop => cases saved <;> exact ⟨rfl, rfl⟩
  | branch =>
    rw [act] at agree
    have length := SamePoses.segmentLength (p := ⟨pose, saved, source⟩)
      (q := ⟨pose, saved, source'⟩) ⟨rfl, rfl⟩ agree h
    exact ⟨congrArg pose.advance length, rfl⟩
  | turn =>
    rw [act] at agree
    have angle : (next source).1 = (next source').1 := agree 0 Nat.two_pos
    have template : (next (next source).2).1 = (next (next source').2).1 := agree 1 Nat.one_lt_two
    refine ⟨?_, rfl⟩
    simp only [angle, template]
  | flower | ignore => exact ⟨rfl, rfl⟩

/-- Sources that agree on the words of a symbol and what follows it agree on the words of what follows
when the symbol has been drawn. -/
theorem agree_step {s : Symbol} {w : Word} (agree : Agree (Word.draws (s :: w)) p.source q.source)
    (h : Habit) :
    Agree s.draws p.source q.source ∧ Agree w.draws (p.step h s).source (q.step h s).source := by
  rw [Word.draws_cons] at agree
  refine ⟨agree.left, ?_⟩
  rw [source_step, source_step]
  exact agree.right

theorem SamePoses.run (same : p.SamePoses q) {w : Word} (agree : Agree w.draws p.source q.source)
    (h : Habit) : (p.run h w).SamePoses (q.run h w) := by
  induction w generalizing p q with
  | nil => exact same
  | cons s w ih =>
    obtain ⟨here, later⟩ := agree_step agree h
    exact ih (same.step here h) later

theorem strokes_eq_of_agree (same : p.SamePoses q) {w : Word}
    (agree : Agree w.draws p.source q.source) (h : Habit) (f : Flower) :
    p.strokes h f w = q.strokes h f w := by
  induction w generalizing p q with
  | nil => rfl
  | cons s w ih =>
    obtain ⟨here, later⟩ := agree_step agree h
    rw [strokes, strokes, same.stroke here, ih (same.step here h) later]

end Pen

namespace Species

open Layout MeshBuilder

variable {σ : Type} [RandomSource σ]

/-- How many random words are drawn for a word. -/
def drawn (sp : Species) (w : Word) (f : Flower) (source : σ) (j : Journal) : Nat :=
  (sp.build w f (⟨source, 0⟩ : Counted σ) j).source.drawn

theorem source_build_eq (sp : Species) (w : Word) (f : Flower) (source : σ) (j : Journal) :
    (sp.build w f source j).source = after (executed f [] w).draws source := by
  rw [source_build]
  exact (Canvas.drawn_blank source j f).source_walk sp.habit w

theorem drawn_eq (sp : Species) (w : Word) (f : Flower) (source : σ) (j : Journal) :
    sp.drawn w f source j = (executed f [] w).draws := by
  rw [drawn, source_build_eq, after_counted]
  exact Nat.zero_add _

/-- Of a word that can be drawn all symbols are executed. -/
theorem drawn_of_obstacle_eq_none {f : Flower} {w : Word} (free : obstacle f w = none) (sp : Species)
    (source : σ) (j : Journal) : sp.drawn w f source j = w.draws := by
  rw [drawn_eq, executed_eq_self]
  exact (obstacle_eq_none_iff.1 free).1

/-- A build takes exactly the random words of the symbols that are executed, one for a segment and
two for a turn, and another source that begins with the same words gives the same mesh or the same
error. -/
theorem build_draws (sp : Species) (w : Word) (f : Flower) (source : σ) (j : Journal) :
    let k := (executed f [] w).draws
    (sp.build w f source j).source = after k source ∧
    (∀ n, (sp.build w f (⟨source, n⟩ : Counted σ) j).source.drawn = n + k) ∧
    ∀ {τ : Type} [RandomSource τ] (source' : τ) (j' : Journal), Agree k source source' →
      (sp.build w f source' j').mesh = (sp.build w f source j).mesh := by
  refine ⟨source_build_eq sp w f source j, fun n => ?_, fun source' j' agree => ?_⟩
  · rw [source_build_eq, after_counted]
  · cases obstructed : obstacle f w with
    | some e => rw [mesh_build_eq, mesh_build_eq, obstructed]
    | none =>
      obtain ⟨m, drawn⟩ := exists_mesh_build obstructed sp source j
      obtain ⟨-, indices, positions, normals⟩ := mesh_build_eq_ok_iff.1 drawn
      have first := (obstacle_eq_none_iff.1 obstructed).1
      rw [executed_eq_self (v := []) first] at agree
      have same : (Pen.root source).strokes sp.habit f w = (Pen.root source').strokes sp.habit f w :=
        Pen.strokes_eq_of_agree (Pen.samePoses_root source source') agree sp.habit f
      rw [same] at positions normals
      rw [drawn, mesh_build_eq_ok_iff]
      exact ⟨obstructed, indices, positions, normals⟩

/-- A turn and a segment take three words; the sources differ in the fourth. -/
theorem build_draws_of_three :
    Agree 3 (⟨[1, 2, 3, 4], 0⟩ : Scripted) (⟨[1, 2, 3, 9], 5⟩ : Scripted) ∧
    (({} : Species).build [.push, .turn, .bud, .pop, .flower] ⟨[.zero], [.zero], [0, 0, 0]⟩
      (⟨[1, 2, 3, 9], 5⟩ : Scripted) (.start none)).mesh =
    (({} : Species).build [.push, .turn, .bud, .pop, .flower] ⟨[.zero], [.zero], [0, 0, 0]⟩
      (⟨[1, 2, 3, 4], 0⟩ : Scripted) (.start none)).mesh := by
  have agree : Agree 3 (⟨[1, 2, 3, 4], 0⟩ : Scripted) (⟨[1, 2, 3, 9], 5⟩ : Scripted) := by
    unfold Agree
    decide
  exact ⟨agree, (build_draws _ _ _ _ _).2.2 _ _ agree⟩

end Species

end PlantGrammar
