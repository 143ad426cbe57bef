import PlantGrammar.Proofs.Drawing.Meanings

/-!
# Silent symbols

Symbols for which the turtle does nothing can be left out of a word, since the actions stay the same.
Then so does the mesh, down to the last bit, and what drawing takes from the random source.  Nor can a
word be drawn because of symbols left out or kept: only the position that an error reports is another,
namely the number of symbols kept before the one that failed (`Word.place`).

* `Word.Counterparts.place_eq`: the positions that belong together when symbols are left out.
* `Species.build_filter`: the mesh of a word without silent symbols.
-/

namespace PlantGrammar

namespace Word

/-- The position to which the symbol at position `i` comes when only some symbols are kept; for the
end of the word, the end of the shorter one. -/
def place (keep : Symbol → Bool) (w : Word) (i : Nat) : Nat := (w.take i).countP keep

theorem place_append (keep : Symbol → Bool) (v w : Word) :
    place keep (v ++ w) v.length = (v.filter keep).length := by
  rw [place, List.take_left, List.countP_eq_length_filter]

theorem place_length (keep : Symbol → Bool) (w : Word) :
    place keep w w.length = (w.filter keep).length := by
  rw [place, List.take_length, List.countP_eq_length_filter]

/-- A symbol with an action is found again by the actions before it. -/
theorem length_eq_of_actions_eq {v v' w w' : Word} {s s' : Symbol} (acts : s.action ≠ .ignore)
    (acts' : s'.action ≠ .ignore) (division : v ++ s :: w = v' ++ s' :: w')
    (before : v.actions = v'.actions) : v.length = v'.length := by
  have longer {u : Symbol} {l : Word} (acts : u.action ≠ .ignore) (v : Word) :
      v.actions ≠ actions (v ++ u :: l) := by
    intro same
    rw [actions_append, actions_cons_of_ne_ignore acts, List.self_eq_append_right] at same
    cases same
  rcases List.append_eq_append_iff.1 division with ⟨l, rfl, rest⟩ | ⟨l, rfl, rest⟩
  · cases l with
    | nil => simp
    | cons u l =>
      cases rest
      exact absurd before (longer acts v)
  · cases l with
    | nil => simp
    | cons u l =>
      cases rest
      exact absurd before.symm (longer acts' v')

section

variable {keep : Symbol → Bool} (silent : ∀ s, keep s = false → s.action = .ignore)

include silent

theorem actions_filter (w : Word) : actions (w.filter keep) = actions w := by
  induction w with
  | nil => rfl
  | cons s w ih =>
    by_cases kept : keep s = true
    · rw [List.filter_cons_of_pos kept, ← List.singleton_append, actions_append, ih,
        ← actions_append, List.singleton_append]
    · rw [List.filter_cons_of_neg kept, ih,
        actions_cons_of_ignore (silent s (Bool.eq_false_iff.2 kept))]

theorem Counterparts.place_eq {w : Word} {i i' : Nat}
    (counterparts : w.Counterparts (w.filter keep) i i') : w.place keep i = i' := by
  cases counterparts with
  | @symbol v₁ w₁ v₂ w₂ s s' left right before action acts =>
    subst left
    have kept : keep s = true := by
      apply Bool.of_not_eq_false
      intro dropped
      exact acts (silent s dropped)
    rw [List.filter_append, List.filter_cons_of_pos kept] at right
    rw [place_append]
    exact length_eq_of_actions_eq acts (action ▸ acts) right
      ((actions_filter silent v₁).trans before)
  | ending => exact place_length keep w

end

end Word

namespace Species

variable {σ : Type} [RandomSource σ]

theorem mesh_build_of_journal (sp : Species) (w : Word) (f : Flower) (source : σ) (j j' : Journal) :
    (sp.build w f source j).mesh = (sp.build w f source j').mesh := by
  cases drawn : (sp.build w f source j').mesh with
  | ok m => exact mesh_build_eq_ok_iff.2 (mesh_build_eq_ok_iff.1 drawn)
  | error e =>
    rw [mesh_build_eq] at drawn ⊢
    cases obstructed : Layout.obstacle f w with
    | some e' =>
      rw [obstructed] at drawn
      exact drawn
    | none =>
      rw [obstructed] at drawn
      cases drawn

/-- Without silent symbols the same mesh is drawn, or the same error is reported for the position
that its symbol then has, and the same random words are taken. -/
theorem build_filter {keep : Symbol → Bool} (silent : ∀ s, keep s = false → s.action = .ignore)
    (sp : Species) (w : Word) (f : Flower) (source : σ) (j j' : Journal) :
    (sp.build (w.filter keep) f source j).mesh =
        (sp.build w f source j').mesh.mapError (.relocate (w.place keep)) ∧
      (sp.build (w.filter keep) f source j).source = (sp.build w f source j').source := by
  have same : w.actions = Word.actions (w.filter keep) := (Word.actions_filter silent w).symm
  rw [mesh_build_of_journal sp w f source j' j]
  constructor
  · cases Alike.of_actions same sp f source j with
    | mesh m left right =>
      rw [left, right]
      rfl
    | error e counterparts _ _ left right =>
      rw [left, right, ← counterparts.place_eq silent]
      cases e <;> rfl
  · rw [source_build_eq sp w f source j', ← source_build_eq sp w f source j]
    exact (source_build_of_actions same sp f source j).symm

end Species

end PlantGrammar
