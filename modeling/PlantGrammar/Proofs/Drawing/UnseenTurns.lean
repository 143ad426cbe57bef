import PlantGrammar.Proofs.Drawing.Draws

/-!
# Unseen turns

A turn replaces the orientation, whatever it was, and the end of a branch brings back the one that was
saved.  So a turn is not seen in the mesh if only literals stand between it and the next turn, the end
of its branch or the end of the word.  Without it, and with a random source that lacks its two words,
everything is drawn as before.

* `Word.Forgets`: what may follow an unseen turn.
* `Layout.obstacle_turn_eq_none_iff`: a turn keeps nothing from being drawn.
* `Pen.SamePlace.strokes_eq`: pens with different orientations draw such a word in the same way.
* `Species.build_unseen_turn`: the mesh with and without the turn.
-/

namespace PlantGrammar

open RandomSource

/-- The second source lacks the `m` words that the first has after the first `n`. -/
structure RandomSource.Without {σ τ : Type} [RandomSource σ] [RandomSource τ] (n m : Nat) (s : σ)
    (s' : τ) : Prop where
  before : Agree n s s'
  behind : ∀ i, word (after (n + m) s) i = word (after n s') i

/-! ### Words -/

namespace Word

/-- Words for which the orientation before them is of no consequence. -/
inductive Forgets : Word → Prop
  | turn (w : Word) : Forgets (.turn :: w)
  | pop (w : Word) : Forgets (.pop :: w)
  | ending : Forgets []

theorem tally_turn {a : Action} (other : a ≠ .turn) (v w : Word) :
    tally a (v ++ .turn :: w) = tally a (v ++ w) := by
  have alone : tally a [.turn] = 0 := (tally_singleton a .turn).trans (if_neg other.symm)
  rw [tally_append, tally_append, tally_cons_eq_add, alone, Nat.zero_add]

end Word

namespace Layout

variable {f : Flower} {v w : Word} {s : Symbol}

theorem offence_turn_eq_none_iff (f : Flower) (v w : Word) (s : Symbol) :
    offence f (v ++ .turn :: w) s = none ↔ offence f (v ++ w) s = none := by
  have same_vertices : vertices f (v ++ .turn :: w) = vertices f (v ++ w) := by
    rw [vertices, vertices, Word.tally_turn (by decide), Word.tally_turn (by decide)]
  have pops : Word.tally .pop (v ++ .turn :: w) = Word.tally .pop (v ++ w) :=
    Word.tally_turn (by decide) v w
  have pushes : Word.tally .push (v ++ .turn :: w) = Word.tally .push (v ++ w) :=
    Word.tally_turn (by decide) v w
  constructor
  · exact offence_eq_none_of_le (Nat.le_of_eq same_vertices.symm) (by omega)
  · exact offence_eq_none_of_le (Nat.le_of_eq same_vertices) (by omega)

theorem firstOffence_turn_eq_none_iff (f : Flower) (v w : Word) :
    firstOffence f (v ++ .turn :: w) = none ↔ firstOffence f (v ++ w) = none := by
  have here : offence f v .turn = none := rfl
  rw [firstOffence_append, firstOffence_append, Word.findSome?_sites_cons, here, Option.none_or]
  simp only [Option.or_eq_none_iff, List.findSome?_eq_none_iff, List.append_assoc,
    List.singleton_append, offence_turn_eq_none_iff]

/-- A turn keeps nothing from being drawn. -/
theorem obstacle_turn_eq_none_iff (f : Flower) (v w : Word) :
    obstacle f (v ++ .turn :: w) = none ↔ obstacle f (v ++ w) = none := by
  rw [obstacle_eq_none_iff, obstacle_eq_none_iff, firstOffence_turn_eq_none_iff,
    Word.tally_turn (by decide), Word.tally_turn (by decide)]

theorem indices_turn (f : Flower) (v w : Word) :
    indices f (v ++ .turn :: w) = indices f (v ++ w) := by
  have alone : indices f [.turn] = [] := rfl
  have nothing : vertices f (v ++ [.turn]) = vertices f v := vertices_concat f v .turn
  rw [← List.singleton_append, ← List.append_assoc, indices_append, indices_append, nothing,
    indices_append, alone, List.map_nil, List.append_nil]

end Layout

/-! ### Pens -/

namespace Pen

variable {σ τ : Type} [RandomSource σ] [RandomSource τ] {p : Pen σ} {q : Pen τ} {w : Word}

theorem run_literals (h : Habit) (p : Pen σ) (l : List Char) :
    p.run h (l.map Symbol.literal) = p := by
  induction l with
  | nil => rfl
  | cons c l ih => exact ih

theorem flatten_strokes_literals (h : Habit) (f : Flower) (p : Pen σ) (l : List Char) :
    (p.strokes h f (l.map Symbol.literal)).flatten = [] := by
  induction l with
  | nil => rfl
  | cons c l ih => exact ih

/-- The pens differ at most in their orientation and in the random source. -/
structure SamePlace (p : Pen σ) (q : Pen τ) : Prop where
  position : p.pose.position = q.pose.position
  saved : p.saved = q.saved

omit [RandomSource τ] in
theorem SamePoses.turn (same : p.SamePoses q) (h : Habit) : (p.step h .turn).SamePlace q where
  position := by
    have stays : (p.step h .turn).pose.position = p.pose.position := rfl
    rw [stays, same.pose]
  saved := same.saved

theorem SamePlace.turn (place : p.SamePlace q) (agree : Agree 2 p.source q.source) (h : Habit) :
    (p.step h .turn).SamePoses (q.step h .turn) := by
  have angle : (next p.source).1 = (next q.source).1 := agree 0 Nat.two_pos
  have template : (next (next p.source).2).1 = (next (next q.source).2).1 := agree 1 Nat.one_lt_two
  refine ⟨?_, place.saved⟩
  simp only [step, Symbol.action, Pose.reorient, place.position, angle, template]

theorem SamePlace.pop (place : p.SamePlace q) (opened : p.saved ≠ []) (h : Habit) :
    (p.step h .pop).SamePoses (q.step h .pop) := by
  obtain ⟨r, rs, saved⟩ := List.exists_cons_of_ne_nil opened
  have saved' : q.saved = r :: rs := place.saved.symm.trans saved
  constructor <;> simp only [step, Symbol.action, saved, saved']

/-- What forgets the orientation is drawn in the same way by pens that differ in nothing else. -/
theorem SamePlace.strokes_eq (place : p.SamePlace q) (forgets : w.Forgets)
    (opened : ∀ u, w = .pop :: u → p.saved ≠ []) (agree : Agree w.draws p.source q.source)
    (h : Habit) (f : Flower) : p.strokes h f w = q.strokes h f w := by
  cases forgets with
  | turn w =>
    obtain ⟨here, later⟩ := agree_step agree h
    exact congrArg (List.cons []) (strokes_eq_of_agree (place.turn here h) later h f)
  | pop w =>
    obtain ⟨-, later⟩ := agree_step agree h
    exact congrArg (List.cons []) (strokes_eq_of_agree (place.pop (opened w rfl) h) later h f)
  | ending => rfl

/-- A word is drawn in the same way with and without an unseen turn. -/
theorem strokes_unseen_turn {f : Flower} {v : Word} {l : List Char} (forgets : w.Forgets)
    (free : Layout.firstOffence f (v ++ l.map .literal ++ w) = none) {source : σ} {source' : τ}
    (without : Without v.draws 2 source source') (h : Habit) :
    ((root source).strokes h f (v ++ .turn :: l.map .literal ++ w)).flatten =
      ((root source').strokes h f (v ++ l.map .literal ++ w)).flatten := by
  have before : (root source).strokes h f v = (root source').strokes h f v :=
    strokes_eq_of_agree (samePoses_root source source') without.before h f
  have arrived := (samePoses_root source source').run without.before h
  have rest := source_run h (root source) v
  have rest' := source_run h (root source') v
  -- a branch is open when `w` closes one
  have opened (u : Word) (pop : w = .pop :: u) : ((root source).run h v).saved ≠ [] := by
    subst pop
    have saved := saved_ne_nil_of_pop free h source
    rwa [run_append, run_literals] at saved
  have agree : Agree w.draws ((((root source).run h v).step h .turn).source)
      ((root source').run h v).source := by
    intro i _
    rw [source_step, rest, rest', ← after_add]
    exact without.behind i
  have behind := (arrived.turn h).strokes_eq forgets opened agree h f
  have turn : ((root source).run h v).stroke h f .turn = [] := rfl
  simp only [strokes_append, run_append, run_literals, run_cons, strokes, List.flatten_append,
    flatten_strokes_literals, List.flatten_cons, turn, before, behind, List.nil_append]

end Pen

namespace Species

open Layout MeshBuilder

variable {σ τ : Type} [RandomSource σ] [RandomSource τ]

/-- A turn after which only literals stand before the next turn, the end of its branch or the end of
the word has no influence on the mesh: the word without it, drawn from the random words without its
two, gives a mesh if and only if the word with it does, and the same mesh. -/
theorem build_unseen_turn {sp : Species} {v w : Word} {f : Flower} {source : σ} {source' : τ}
    {j : Journal} (l : List Char) (forgets : w.Forgets)
    (without : Without (sp.drawn v f source j) 2 source source') (j' : Journal) :
    let turned := v ++ .turn :: l.map .literal ++ w
    let straight := v ++ l.map .literal ++ w
    ((∃ m, (sp.build turned f source j).mesh = .ok m) ↔
      ∃ m, (sp.build straight f source' j').mesh = .ok m) ∧
    ∀ m, (sp.build turned f source j).mesh = .ok m →
      (sp.build straight f source' j').mesh = .ok m ∧
        sp.drawn turned f source j = sp.drawn straight f source' j' + 2 := by
  intro turned straight
  have free_iff : obstacle f turned = none ↔ obstacle f straight = none := by
    simp only [turned, straight, List.append_assoc, List.cons_append]
    exact obstacle_turn_eq_none_iff f v _
  refine ⟨?_, fun m drawn => ?_⟩
  · rw [exists_mesh_build_iff, exists_mesh_build_iff, free_iff]
  · obtain ⟨free, indices, positions, normals⟩ := mesh_build_eq_ok_iff.1 drawn
    have free' := free_iff.1 free
    have first := (obstacle_eq_none_iff.1 free').1
    have before : firstOffence f v = none := by
      simp only [straight, firstOffence_append, Option.or_eq_none_iff] at first
      exact first.1.1
    rw [drawn_eq, executed_eq_self (v := []) before] at without
    have strokes := Pen.strokes_unseen_turn forgets first without sp.habit
    have same_indices : Layout.indices f turned = Layout.indices f straight := by
      simp only [turned, straight, List.append_assoc, List.cons_append]
      exact indices_turn f v _
    refine ⟨mesh_build_eq_ok_iff.2 ⟨free', ?_, ?_, ?_⟩, ?_⟩
    · rw [indices, same_indices]
    · rw [positions, strokes]
    · rw [normals, strokes]
    · rw [drawn_of_obstacle_eq_none free, drawn_of_obstacle_eq_none free']
      have turn : Symbol.draws .turn = 2 := rfl
      simp only [turned, straight, Word.draws_append, Word.draws_cons, turn]
      omega

/-- The branch turns at its end, which takes the words 2 and 3; a segment follows the branch. -/
theorem build_unseen_turn_of_branch :
    let f : Flower := ⟨[.zero], [.zero], [0, 0, 0]⟩
    let turned : Word := [.push, .bud, .turn, .literal 'x', .pop, .shoot]
    let straight : Word := [.push, .bud, .literal 'x', .pop, .shoot]
    let source : Scripted := ⟨[1, 2, 3, 4], 0⟩
    let source' : Scripted := ⟨[1, 4], 0⟩
    Word.Forgets [.pop, .shoot] ∧
    Without (({} : Species).drawn [.push, .bud] f source (.start none)) 2 source source' ∧
    ∃ m, (({} : Species).build turned f source (.start none)).mesh = .ok m ∧
      (({} : Species).build straight f source' (.start none)).mesh = .ok m ∧
      ({} : Species).drawn turned f source (.start none) =
        ({} : Species).drawn straight f source' (.start none) + 2 := by
  intro f turned straight source source'
  have forgets : Word.Forgets [.pop, .shoot] := .pop _
  have count : ({} : Species).drawn [.push, .bud] f source (.start none) = 1 :=
    (drawn_eq _ _ _ _ _).trans (by decide)
  have without : Without (({} : Species).drawn [.push, .bud] f source (.start none)) 2 source
      source' := by
    rw [count]
    refine ⟨?_, fun i => rfl⟩
    unfold Agree
    decide
  obtain ⟨m, drawn⟩ := exists_mesh_build (f := f) (w := turned) (by decide) {} source (.start none)
  obtain ⟨-, same⟩ := build_unseen_turn ['x'] forgets without (.start none)
  obtain ⟨drawn', fewer⟩ := same m drawn
  exact ⟨forgets, without, m, drawn, drawn', fewer⟩

end Species

end PlantGrammar
