import PlantGrammar.Proofs.Drawing.Layout

/-!
# When drawing fails

A symbol cannot be drawn if it closes a branch that is not open, or if its indices become too great.
Which it is, and with what data, follows from the word before it and the flower
(`Layout.offence`).  A word cannot be drawn because of its first such symbol or, if there is none,
because it leaves branches open (`Layout.obstacle`).

* `Species.build_fails_iff`: building a word fails with the error of its obstacle, and gives a mesh
  if there is none.
-/

namespace PlantGrammar

namespace Layout

open MeshBuilder

/-- Why the symbol `s` cannot be drawn after the word `v`, if it cannot.  The greatest index of the
box is 23. -/
def offence (f : Flower) (v : Word) (s : Symbol) : Option GrowthError :=
  match s.action with
  | .pop => if v.tally .pop = v.tally .push then some (.stackUnderflow v.length 0) else none
  | .branch => overflow (vertices f v) 23
  | .flower => overflow (vertices f v) (greatest f.indices)
  | _ => none

/-- The offence of the first symbol of the word that cannot be drawn. -/
def firstOffence (f : Flower) (w : Word) : Option GrowthError :=
  w.sites.findSome? fun p => offence f p.1 p.2

/-- Why the word cannot be drawn, if it cannot: its first offence, else the branches that it leaves
open. -/
def obstacle (f : Flower) (w : Word) : Option GrowthError :=
  match firstOffence f w with
  | some e => some e
  | none =>
    if w.tally .pop < w.tally .push then
      some (.stackUnderflow w.length (w.tally .push - w.tally .pop))
    else
      none

theorem obstacle_eq_none_iff {f : Flower} {w : Word} :
    obstacle f w = none ↔ firstOffence f w = none ∧ w.tally .push ≤ w.tally .pop := by
  unfold obstacle
  cases firstOffence f w with
  | some e => simp
  | none => simp

theorem firstOffence_append (f : Flower) (v w : Word) :
    firstOffence f (v ++ w) =
      (firstOffence f v).or (w.sites.findSome? fun p => offence f (v ++ p.1) p.2) := by
  rw [firstOffence, Word.sites_append, List.findSome?_append, List.findSome?_map]
  rfl

/-- What can be drawn after one word can be drawn after another that has fewer vertices, if that leaves
a branch open whenever the first does. -/
theorem offence_eq_none_of_le {f : Flower} {v v' : Word} {s : Symbol}
    (fewer : vertices f v' ≤ vertices f v)
    (closed : v'.tally .pop = v'.tally .push → v.tally .pop = v.tally .push)
    (free : offence f v s = none) : offence f v' s = none := by
  unfold offence at free ⊢
  cases act : s.action with
  | pop =>
    simp only [act, ite_eq_right_iff, reduceCtorEq, imp_false] at free ⊢
    exact fun root => free (closed root)
  | branch | flower =>
    simp only [act, overflow_eq_none_iff] at free ⊢
    omega
  | push | turn | ignore => rfl

end Layout

namespace Canvas

open Layout MeshBuilder

variable {σ : Type} [RandomSource σ] {h : Habit} {f : Flower} {c : Canvas σ} {v w : Word}

/-- The next symbol fails exactly if it offends against the word drawn so far. -/
theorem Drawn.failure_step (drawn : c.Drawn f v) (h : Habit) (s : Symbol) :
    (c.step h f v.length s).failure = offence f v s := by
  obtain ⟨p, ps, poses⟩ := drawn.exists_poses
  have depth : ps.length + v.tally .pop = v.tally .push := by
    have := drawn.depth
    rw [Turtle.depth, poses, List.length_cons] at this
    omega
  rw [offence]
  cases act : s.action with
  | push => rw [step_push h f _ act poses]; rfl
  | pop =>
    cases ps with
    | nil =>
      rw [step_pop_root h f _ act (by simp [Turtle.depth, poses])]
      rw [List.length_nil, Nat.zero_add] at depth
      simp [fail, depth]
    | cons q qs =>
      rw [step_pop h f _ act poses]
      have open_branches : v.tally .pop ≠ v.tally .push := by
        rw [List.length_cons] at depth
        omega
      simp [done, open_branches]
  | branch =>
    rw [step_branch h f _ act, failure_branch poses, failure_append, drawn.size]
    rfl
  | turn => rw [step_turn h f _ act, turn_eq poses]; rfl
  | flower => rw [step_flower h f _ act, failure_flower poses, failure_append, drawn.size]; rfl
  | ignore => rw [step_ignore h f _ act]; rfl

theorem Drawn.failure_walk (drawn : c.Drawn f v) (h : Habit) (w : Word) :
    (c.walk h f v.length w).failure = w.sites.findSome? fun p => offence f (v ++ p.1) p.2 :=
  failure_walk_eq_findSome? (P := fun v c => c.Drawn f v)
    (fun _ _ s drawn ok => drawn.step s ok) (fun _ _ s drawn => drawn.failure_step h s) drawn

theorem failure_walk_blank (h : Habit) (f : Flower) (source : σ) (j : Journal) (w : Word) :
    ((blank source j).walk h f 0 w).failure = firstOffence f w :=
  (drawn_blank source j f).failure_walk h w

end Canvas

namespace Species

open Layout

variable {σ : Type} [RandomSource σ]

/-- A word without an obstacle gives the mesh that its walk has drawn. -/
theorem mesh_build_eq (sp : Species) (w : Word) (f : Flower) (source : σ) (j : Journal) :
    (sp.build w f source j).mesh =
      match obstacle f w with
      | some e => .error e
      | none => .ok ((Canvas.blank source j).walk sp.habit f 0 w).canvas.builder.finish := by
  have failed := Canvas.failure_walk_blank sp.habit f source j w
  have drawn := (Canvas.drawn_blank source j f).walk (h := sp.habit) (w := w)
  rw [mesh_build, obstacle]
  simp only [List.nil_append, List.length_nil] at drawn
  generalize (Canvas.blank source j).walk sp.habit f 0 w = o at failed drawn ⊢
  cases first : firstOffence f w with
  | some e => simp only [failed, first]
  | none =>
    rw [first] at failed
    -- there is one pose more than there are open branches
    have depth := (drawn failed).depth
    have unclosed : o.canvas.turtle.depth - 1 = w.tally .push - w.tally .pop := by omega
    simp only [failed, unclosed]
    by_cases left_open : w.tally .pop < w.tally .push
    · rw [if_pos left_open, if_pos (by omega)]
    · rw [if_neg left_open, if_neg (by omega)]

theorem mesh_build_eq_error_iff {sp : Species} {w : Word} {f : Flower} {source : σ} {j : Journal}
    {e : GrowthError} : (sp.build w f source j).mesh = .error e ↔ obstacle f w = some e := by
  rw [mesh_build_eq]
  cases obstacle f w with
  | none => simp
  | some e' => simp

theorem exists_mesh_build_iff {sp : Species} {w : Word} {f : Flower} {source : σ} {j : Journal} :
    (∃ m, (sp.build w f source j).mesh = .ok m) ↔ obstacle f w = none := by
  rw [mesh_build_eq]
  cases obstacle f w with
  | none => simp
  | some e => simp

theorem exists_mesh_build {f : Flower} {w : Word} (free : obstacle f w = none)
    (sp : Species) (source : σ) (j : Journal) : ∃ m, (sp.build w f source j).mesh = .ok m :=
  exists_mesh_build_iff.2 free

/-- Whether a word gives a mesh, and with what error it fails, is decided by the word and the flower
alone: neither the habit nor the random source has a part in it. -/
theorem build_fails_iff (sp : Species) (w : Word) (f : Flower) (source : σ) (j : Journal) :
    ((∃ m, (sp.build w f source j).mesh = .ok m) ↔ obstacle f w = none) ∧
    ∀ e, (sp.build w f source j).mesh = .error e ↔ obstacle f w = some e := by
  exact ⟨exists_mesh_build_iff, fun e => mesh_build_eq_error_iff⟩

/-- A flower without vertices can be drawn as long as its index fits. -/
example : obstacle ⟨[], [], [0xFFFFFFFF]⟩ [.flower, .internode, .flower, .pop] =
    some (.indexOverflow 0x100000018) := by
  decide

end Species

end PlantGrammar
