import PlantGrammar.Proofs.Drawing.Draws

/-!
# The meaning of a word

A word means a sequence of actions (`Word.actions`): what the turtle does for its symbols, without the
symbols for which it does nothing.  Two words with the same actions are drawn in step with each other.
Whenever one of them has a symbol without an action, the other waits; and when one of them fails, the
other fails at the symbol that belongs to it (`Word.Counterparts`).

* `Canvas.step_cases`: an act depends on the position of its symbol only in what it reports.
* `Canvas.Lockstep.of_actions`: two walks over words with the same actions.
* `Species.build_of_actions`: what is built from such words.
-/

namespace PlantGrammar

/-- The same error, reported for another position. -/
def GrowthError.relocate (place : Nat → Nat) : GrowthError → GrowthError
  | stackUnderflow i unclosed => stackUnderflow (place i) unclosed
  | e => e

/-! ### Actions -/

namespace Word

/-- What the turtle does for a word. -/
def actions (w : Word) : List Action := (w.map Symbol.action).filter (· ≠ .ignore)

variable {s : Symbol} {u u' v w : Word}

theorem actions_append (v w : Word) : actions (v ++ w) = actions v ++ actions w := by
  rw [actions, List.map_append, List.filter_append]
  rfl

theorem actions_cons_of_ignore (silent : s.action = .ignore) (w : Word) :
    actions (s :: w) = actions w := by
  rw [actions, List.map_cons, List.filter_cons_of_neg (by simp [silent])]
  rfl

theorem actions_cons_of_ne_ignore (acts : s.action ≠ .ignore) (w : Word) :
    actions (s :: w) = s.action :: actions w := by
  rw [actions, List.map_cons, List.filter_cons_of_pos (by simpa using acts)]
  rfl

/-- Before the symbol with the first action there are only symbols without one. -/
theorem exists_of_actions_eq_cons {a : Action} {as : List Action} (acts : actions w = a :: as) :
    ∃ l s u, w = l ++ s :: u ∧ actions l = [] ∧ s.action = a ∧ actions u = as := by
  induction w with
  | nil => cases acts
  | cons s w ih =>
    by_cases silent : s.action = .ignore
    · rw [actions_cons_of_ignore silent] at acts
      obtain ⟨l, s', u, rfl, none_before, act, rest⟩ := ih acts
      exact ⟨s :: l, s', u, rfl, (actions_cons_of_ignore silent l).trans none_before, act, rest⟩
    · rw [actions_cons_of_ne_ignore silent] at acts
      cases acts
      exact ⟨[], s, w, rfl, rfl, rfl, rfl⟩

/-- Positions in two words that belong together: at both there is a symbol with the same action, and
the same actions come before it; or both are the end. -/
inductive Counterparts (v w : Word) : Nat → Nat → Prop
  | symbol (v₁ w₁ : Word) {v₂ w₂ : Word} {s s' : Symbol} (left : v = v₁ ++ s :: v₂)
    (right : w = w₁ ++ s' :: w₂) (before : v₁.actions = w₁.actions) (action : s.action = s'.action)
    (acts : s.action ≠ .ignore) : Counterparts v w v₁.length w₁.length
  | ending : Counterparts v w v.length w.length

theorem Counterparts.append {k k' : Nat} (counterparts : v.Counterparts w k k')
    (before : u.actions = u'.actions) :
    Counterparts (u ++ v) (u' ++ w) (u.length + k) (u'.length + k') := by
  cases counterparts with
  | @symbol v₁ w₁ v₂ w₂ s s' left right between action acts =>
    have left' : u ++ v = u ++ v₁ ++ s :: v₂ := by rw [left, List.append_assoc]
    have right' : u' ++ w = u' ++ w₁ ++ s' :: w₂ := by rw [right, List.append_assoc]
    have before' : actions (u ++ v₁) = actions (u' ++ w₁) := by
      rw [actions_append, actions_append, before, between]
    rw [← List.length_append, ← List.length_append]
    exact .symbol (u ++ v₁) (u' ++ w₁) left' right' before' action acts
  | ending =>
    rw [← List.length_append, ← List.length_append]
    exact .ending

end Word

/-! ### Walks in step -/

namespace MeshBuilder

/-- No position is reported when there are too many vertices. -/
theorem relocate_of_failure_append {b : MeshBuilder} {block : Block} {e : GrowthError}
    (failed : (b.append block).2 = some e) (place : Nat → Nat) : e.relocate place = e := by
  rcases append_cases b block with ⟨-, eq⟩ | ⟨-, -, eq⟩ | ⟨-, base, -, eq⟩
  all_goals
    rw [eq] at failed
    cases failed
  · rfl
  · rfl

end MeshBuilder

theorem Turtle.exists_two_poses {t : Turtle} (deep : 1 < t.depth) :
    ∃ q p ps, t.poses = q :: p :: ps := by
  obtain ⟨q, rest, poses⟩ := List.exists_cons_of_length_pos (Nat.lt_of_succ_lt deep)
  rw [Turtle.depth, poses, List.length_cons] at deep
  obtain ⟨p, ps, rfl⟩ := List.exists_cons_of_length_pos (Nat.lt_of_succ_lt_succ deep)
  exact ⟨q, p, ps, poses⟩

namespace Canvas

variable {σ : Type} [RandomSource σ] {h : Habit} {f : Flower}

theorem relocate_of_failure_branch {c : Canvas σ} {e : GrowthError}
    (failed : (c.branch h).failure = some e) (place : Nat → Nat) : e.relocate place = e := by
  cases poses : c.turtle.poses with
  | nil =>
    simp only [branch, draw, Turtle.current?, poses, List.head?_nil, fail] at failed
    cases failed
    rfl
  | cons p ps =>
    rw [failure_branch poses] at failed
    exact MeshBuilder.relocate_of_failure_append failed place

omit [RandomSource σ] in
theorem relocate_of_failure_flower {c : Canvas σ} {e : GrowthError}
    (failed : (c.flower h f).failure = some e) (place : Nat → Nat) : e.relocate place = e := by
  cases poses : c.turtle.poses with
  | nil =>
    simp only [flower, Turtle.current?, poses, List.head?_nil, fail] at failed
    cases failed
    rfl
  | cons p ps =>
    rw [failure_flower poses] at failed
    exact MeshBuilder.relocate_of_failure_append failed place

theorem relocate_of_failure_turn {c : Canvas σ} {e : GrowthError}
    (failed : (c.turn h).failure = some e) (place : Nat → Nat) : e.relocate place = e := by
  cases poses : c.turtle.poses with
  | nil =>
    simp only [turn, reorient, draw, Turtle.current?, poses, List.head?_nil, fail] at failed
    cases failed
    rfl
  | cons p ps =>
    rw [turn_eq poses] at failed
    cases failed

theorem step_congr {s s' : Symbol} (same : s.action = s'.action) (i : Nat) (c : Canvas σ) :
    c.step h f i s = c.step h f i s' := by
  rw [step, step, same]

/-- The position of a symbol shows in nothing but the error that is reported for it. -/
theorem step_cases (h : Habit) (f : Flower) (s : Symbol) (c : Canvas σ) :
    (∃ d : Canvas σ, ∀ i, c.step h f i s = d.done) ∨
      ∃ (d : Canvas σ) (e : GrowthError), ∀ i, c.step h f i s = d.fail (e.relocate fun _ => i) := by
  -- acts that are not told the position
  have unplaced {o : Outcome σ} (same : ∀ i, c.step h f i s = o)
      (unmoved : ∀ e, o.failure = some e → ∀ place, e.relocate place = e) :
      (∃ d : Canvas σ, ∀ i, c.step h f i s = d.done) ∨
        ∃ (d : Canvas σ) (e : GrowthError),
          ∀ i, c.step h f i s = d.fail (e.relocate fun _ => i) := by
    obtain ⟨d, _ | e⟩ := o
    · exact .inl ⟨d, same⟩
    · refine .inr ⟨d, e, fun i => ?_⟩
      rw [unmoved e rfl]
      exact same i
  cases act : s.action with
  | push =>
    cases opened : c.turtle.push? with
    | none => exact .inr ⟨c, .emptyTurtle, fun i => by simp only [step, act, opened]; rfl⟩
    | some t => exact .inl ⟨{ c with turtle := t }, fun i => by simp only [step, act, opened]⟩
  | pop =>
    by_cases root : c.turtle.depth ≤ 1
    · exact .inr ⟨c, .stackUnderflow 0 0, fun i => step_pop_root h f i act root⟩
    · obtain ⟨q, p, ps, poses⟩ := Turtle.exists_two_poses (Nat.lt_of_not_le root)
      exact .inl ⟨_, fun i => step_pop h f i act poses⟩
  | branch =>
    exact unplaced (fun i => step_branch h f i act) fun e failed => relocate_of_failure_branch failed
  | turn =>
    exact unplaced (fun i => step_turn h f i act) fun e failed => relocate_of_failure_turn failed
  | flower =>
    exact unplaced (fun i => step_flower h f i act) fun e failed => relocate_of_failure_flower failed
  | ignore => exact .inl ⟨c, fun i => step_ignore h f i act⟩

/-- The walk fails at the symbol at position `k` of the word: all before it can be drawn, and it
cannot. -/
def FailsAt (h : Habit) (f : Flower) (i : Nat) (w : Word) (c : Canvas σ) (k : Nat) : Prop :=
  (c.walk h f i (w.take k)).failure = none ∧ (c.walk h f i (w.take (k + 1))).failure ≠ none

theorem FailsAt.append {c d : Canvas σ} {i k : Nat} {u w : Word}
    (fails : d.FailsAt h f (i + u.length) w k) (before : c.walk h f i u = d.done) :
    c.FailsAt h f i (u ++ w) (u.length + k) := by
  have prefixes (n : Nat) : c.walk h f i ((u ++ w).take (u.length + n)) =
      d.walk h f (i + u.length) (w.take n) := by
    rw [List.take_length_add_append, walk_append, before]
    rfl
  rw [FailsAt, Nat.add_assoc, prefixes, prefixes]
  exact fails

theorem walk_cons_of_step_eq_fail {c d : Canvas σ} {i : Nat} {s : Symbol} {e : GrowthError}
    (failed : c.step h f i s = d.fail e) (w : Word) : c.walk h f i (s :: w) = d.fail e := by
  rw [walk_cons, failed]
  rfl

theorem failsAt_zero {c d : Canvas σ} {i : Nat} {s : Symbol} {e : GrowthError}
    (failed : c.step h f i s = d.fail e) (w : Word) : c.FailsAt h f i (s :: w) 0 := by
  refine ⟨rfl, ?_⟩
  rw [Nat.zero_add, List.take_succ_cons, walk_cons_of_step_eq_fail failed]
  exact Option.some_ne_none _

/-- Two walks that begin on one canvas do the same: both come to the end of their words, or both
fail, at positions that belong together, with errors that differ at most in the position. -/
inductive Lockstep (h : Habit) (f : Flower) (c : Canvas σ) (i i' : Nat) (v w : Word) : Prop
  | finish (d : Canvas σ) (left : c.walk h f i v = d.done) (right : c.walk h f i' w = d.done)
  | stop {k k' : Nat} (d : Canvas σ) (e : GrowthError) (counterparts : v.Counterparts w k k')
    (left_at : c.FailsAt h f i v k) (right_at : c.FailsAt h f i' w k')
    (left : c.walk h f i v = d.fail (e.relocate fun _ => i + k))
    (right : c.walk h f i' w = d.fail (e.relocate fun _ => i' + k'))

variable {c d : Canvas σ} {i i' : Nat} {u u' v w : Word}

/-- Walks that have come to the same canvas go on in step if what is left of them is. -/
theorem Lockstep.append (rest : d.Lockstep h f (i + u.length) (i' + u'.length) v w)
    (actions : u.actions = u'.actions) (left : c.walk h f i u = d.done)
    (right : c.walk h f i' u' = d.done) : c.Lockstep h f i i' (u ++ v) (u' ++ w) := by
  have left_rest : c.walk h f i (u ++ v) = d.walk h f (i + u.length) v := by
    rw [walk_append, left]
    rfl
  have right_rest : c.walk h f i' (u' ++ w) = d.walk h f (i' + u'.length) w := by
    rw [walk_append, right]
    rfl
  cases rest with
  | finish d' left' right' => exact .finish d' (left_rest.trans left') (right_rest.trans right')
  | stop d' e counterparts left_at right_at left' right' =>
    refine .stop d' e (counterparts.append actions) (left_at.append left) (right_at.append right)
      ?_ ?_
    · rw [left_rest, left', Nat.add_assoc]
    · rw [right_rest, right', Nat.add_assoc]

/-- Nothing happens for symbols without an action. -/
theorem walk_of_actions_eq_nil (silent : w.actions = []) (i : Nat) (c : Canvas σ) :
    c.walk h f i w = c.done := by
  induction w generalizing i with
  | nil => rfl
  | cons s w ih =>
    by_cases ignored : s.action = .ignore
    · rw [Word.actions_cons_of_ignore ignored] at silent
      rw [walk_cons, step_ignore h f i ignored]
      exact ih silent (i + 1)
    · rw [Word.actions_cons_of_ne_ignore ignored] at silent
      cases silent

/-- The left word goes ahead symbol by symbol; the right one passes symbols without an action until it
comes to the next one with an action. -/
theorem Lockstep.of_actions (same : v.actions = w.actions) (c : Canvas σ) (i i' : Nat) :
    c.Lockstep h f i i' v w := by
  induction v generalizing w c i i' with
  | nil => exact .finish c rfl (walk_of_actions_eq_nil same.symm i' c)
  | cons s v ih =>
    by_cases ignored : s.action = .ignore
    · have rest : c.Lockstep h f (i + [s].length) (i' + ([] : Word).length) v w :=
        ih ((Word.actions_cons_of_ignore ignored v).symm.trans same) c (i + 1) i'
      have waits : c.walk h f i [s] = c.done := by
        rw [walk_cons, step_ignore h f i ignored]
        rfl
      exact rest.append (Word.actions_cons_of_ignore ignored []) waits rfl
    · rw [Word.actions_cons_of_ne_ignore ignored] at same
      obtain ⟨l, s', w, rfl, silent, act, rest⟩ := Word.exists_of_actions_eq_cons same.symm
      have passed : c.walk h f i' l = c.done := walk_of_actions_eq_nil silent i' c
      obtain ⟨d, drawn⟩ | ⟨d, e, failed⟩ := step_cases h f s c
      · have here : Word.actions [s] = Word.actions (l ++ [s']) := by
          rw [Word.actions_append, silent, Word.actions_cons_of_ne_ignore ignored,
            Word.actions_cons_of_ne_ignore (act ▸ ignored), act]
          rfl
        have left : c.walk h f i [s] = d.done := by
          rw [walk_cons, drawn]
          rfl
        have right : c.walk h f i' (l ++ [s']) = d.done := by
          rw [walk_append, passed]
          show c.walk h f (i' + l.length) [s'] = d.done
          rw [walk_cons, step_congr act, drawn]
          rfl
        have both : c.Lockstep h f i i' ([s] ++ v) (l ++ [s'] ++ w) :=
          Lockstep.append (ih rest.symm d _ _) here left right
        rwa [List.append_assoc] at both
      · have failed' : c.step h f (i' + l.length) s' = d.fail (e.relocate fun _ => i' + l.length) := by
          rw [step_congr act, failed]
        refine .stop d e (.symbol [] l rfl rfl silent.symm act.symm ignored)
          (failsAt_zero (failed i) v) ((failsAt_zero failed' w).append passed) ?_ ?_
        · exact walk_cons_of_step_eq_fail (failed i) v
        · rw [walk_append, passed]
          exact walk_cons_of_step_eq_fail failed' w

end Canvas

/-! ### Meshes -/

namespace Species

variable {σ : Type} [RandomSource σ] {v w : Word}

/-- Drawing the word fails at the given position, or at the end, where branches are left open. -/
def FailsAt (sp : Species) (w : Word) (f : Flower) (source : σ) (j : Journal) (i : Nat) : Prop :=
  let c := Canvas.blank source j
  c.FailsAt sp.habit f 0 w i ∨
    i = w.length ∧ (c.walk sp.habit f 0 w).failure = none ∧
      1 < (c.walk sp.habit f 0 w).canvas.turtle.depth

/-- The words give the same mesh, or they fail for the same reason at positions that belong
together. -/
inductive Alike (sp : Species) (v w : Word) (f : Flower) (source : σ) (j : Journal) : Prop
  | mesh (m : Mesh) (left : (sp.build v f source j).mesh = .ok m)
    (right : (sp.build w f source j).mesh = .ok m)
  | error {i i' : Nat} (e : GrowthError) (counterparts : v.Counterparts w i i')
    (left_at : sp.FailsAt v f source j i) (right_at : sp.FailsAt w f source j i')
    (left : (sp.build v f source j).mesh = .error (e.relocate fun _ => i))
    (right : (sp.build w f source j).mesh = .error (e.relocate fun _ => i'))

section

variable (same : v.actions = w.actions) (sp : Species) (f : Flower)

include same

theorem source_build_of_actions (source : σ) (j : Journal) :
    (sp.build v f source j).source = (sp.build w f source j).source := by
  rw [source_build, source_build]
  obtain ⟨d, left, right⟩ | ⟨d, e, -, -, -, left, right⟩ :=
    Canvas.Lockstep.of_actions (h := sp.habit) (f := f) same (.blank source j) 0 0
  · rw [left, right]
  · rw [left, right]
    rfl

theorem journal_build_of_actions (source : σ) (j : Journal) :
    (sp.build v f source j).journal = (sp.build w f source j).journal := by
  rw [build, build]
  obtain ⟨d, left, right⟩ | ⟨d, e, -, -, -, left, right⟩ :=
    Canvas.Lockstep.of_actions (h := sp.habit) (f := f) same (.blank source j) 0 0
  · rw [left, right, Canvas.done]
    dsimp only
    split
    · rfl
    · rfl
  · rw [left, right]
    rfl

theorem Alike.of_actions (source : σ) (j : Journal) : sp.Alike v w f source j := by
  obtain ⟨d, left, right⟩ | ⟨d, e, counterparts, left_at, right_at, left, right⟩ :=
    Canvas.Lockstep.of_actions (h := sp.habit) (f := f) same (.blank source j) 0 0
  · by_cases left_open : 1 < d.turtle.depth
    · refine .error (.stackUnderflow 0 (d.turtle.depth - 1)) .ending (.inr ⟨rfl, ?_, ?_⟩)
        (.inr ⟨rfl, ?_, ?_⟩) ?_ ?_
      all_goals simp only [build, left, right, Canvas.done, left_open, if_true]
      · rfl
      · rfl
    · refine .mesh d.builder.finish ?_ ?_
      all_goals simp only [build, left, right, Canvas.done, left_open, if_false]
  · rw [Nat.zero_add] at left right
    refine .error e counterparts (.inl left_at) (.inl right_at) ?_ ?_
    all_goals simp only [build, left, right, Canvas.fail]

end

/-- Only what the turtle does for its symbols matters in a word.  Two words with the same actions
take equally many random words and record the same events.  Both give the same mesh, bit for bit, or
both fail for the same reason, at positions that belong together. -/
theorem build_of_actions (same : v.actions = w.actions) (sp : Species) (f : Flower) (source : σ)
    (j : Journal) :
    sp.drawn v f source j = sp.drawn w f source j ∧
    (sp.build v f source j).source = (sp.build w f source j).source ∧
    (sp.build v f source j).journal = (sp.build w f source j).journal ∧
    sp.Alike v w f source j := by
  have counted := source_build_of_actions same sp f (⟨source, 0⟩ : Counted σ) j
  exact ⟨congrArg Counted.drawn counted, source_build_of_actions same sp f source j,
    journal_build_of_actions same sp f source j, .of_actions same sp f source j⟩

/-- The bracket that closes no branch is symbol 4 of one word and symbol 5 of the other; a segment is
drawn before it, for a bud or for a shoot. -/
theorem build_of_actions_of_surplus :
    let v : Word := [.push, .literal 'x', .bud, .pop, .pop]
    let w : Word := [.push, .shoot, .pop, .literal 'y', .literal 'z', .pop]
    let r := ({} : Species).build v .empty (⟨[5], 7⟩ : Scripted) (.start none)
    let r' := ({} : Species).build w .empty (⟨[5], 7⟩ : Scripted) (.start none)
    v.actions = w.actions ∧ r.source = r'.source ∧ v.Counterparts w 4 5 ∧
      r.mesh = .error (.stackUnderflow 4 0) ∧ r'.mesh = .error (.stackUnderflow 5 0) := by
  intro v w r r'
  have same : v.actions = w.actions := by decide
  have left : r.mesh = .error (.stackUnderflow 4 0) := rfl
  have right : r'.mesh = .error (.stackUnderflow 5 0) := rfl
  obtain ⟨-, source, -, alike⟩ :=
    build_of_actions same {} .empty (⟨[5], 7⟩ : Scripted) (.start none)
  cases alike with
  | mesh m drawn => cases left.symm.trans drawn
  | error e counterparts _ _ failed failed' =>
    have at_left := Except.error.inj (failed.symm.trans left)
    have at_right := Except.error.inj (failed'.symm.trans right)
    cases e with
    | stackUnderflow =>
      cases at_left
      cases at_right
      exact ⟨same, source, counterparts, left, right⟩
    | _ => cases at_left

end Species

end PlantGrammar
