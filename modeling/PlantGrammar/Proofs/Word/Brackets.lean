import PlantGrammar.Proofs.Word.Sites

/-!
# Open branches

Reading a word from left to right, one can count the branches that are open; `Word.level` does so,
and has no value once a branch is closed that is not open.  A word is balanced if it leaves the
count at zero.

* `Word.level_eq_some_iff`: the count in terms of the numbers of symbols in the prefixes.
* `Word.level_eq_none_iff`: a word without a count has a first symbol that closes a branch when none
  is open.
-/

namespace PlantGrammar

/-- The number of open branches after a symbol, when `d` of them are open before it. -/
def Symbol.level (d : Nat) (s : Symbol) : Option Nat :=
  match s.action with
  | .push => some (d + 1)
  | .pop => if d = 0 then none else some (d - 1)
  | _ => some d

theorem Symbol.action_eq_pop_iff {s : Symbol} : s.action = .pop ↔ s = .pop :=
  s.action_eq_iff.2.1

namespace Word

/-- The number of open branches after a word, when `d` of them are open before it. -/
def level (d : Nat) (w : Word) : Option Nat := w.foldlM Symbol.level d

/-- Every branch that the word opens is closed in it, and no other. -/
def Balanced (w : Word) : Prop := level 0 w = some 0

instance (w : Word) : Decidable w.Balanced := inferInstanceAs (Decidable (level 0 w = some 0))

variable {d k : Nat} {s : Symbol} {v w : Word}

@[simp]
theorem level_nil (d : Nat) : level d [] = some d := rfl

theorem level_cons (d : Nat) (s : Symbol) (w : Word) :
    level d (s :: w) = (s.level d).bind fun k => level k w :=
  List.foldlM_cons

@[simp]
theorem level_singleton (d : Nat) (s : Symbol) : level d [s] = s.level d :=
  (level_cons d s []).trans (Option.bind_fun_some _)

theorem level_append (d : Nat) (v w : Word) :
    level d (v ++ w) = (level d v).bind fun k => level k w :=
  List.foldlM_append

theorem level_append_of_eq_some (h : level d v = some k) (w : Word) :
    level d (v ++ w) = level k w := by
  rw [level_append, h, Option.bind_some]

theorem level_cons_eq_some_iff :
    level d (s :: w) = some k ↔ ∃ e, s.level d = some e ∧ level e w = some k := by
  rw [level_cons, Option.bind_eq_some_iff]

theorem symbolLevel_eq_some_iff :
    s.level d = some k ↔ tally .pop [s] ≤ d + tally .push [s] ∧
      k + tally .pop [s] = d + tally .push [s] := by
  rw [tally_singleton, tally_singleton, Symbol.level]
  cases s.action <;> simp <;> omega

/-- No prefix closes more branches than are open, and what is open in the end is what was open in
the beginning or has been opened, less what has been closed. -/
theorem level_eq_some_iff :
    level d w = some k ↔ (∀ v, v <+: w → tally .pop v ≤ d + tally .push v) ∧
      k + tally .pop w = d + tally .push w := by
  induction w generalizing d with
  | nil =>
    simp only [level_nil, Option.some.injEq, List.prefix_nil, forall_eq, tally_nil]
    omega
  | cons s w ih =>
    have pops := tally_cons_eq_add .pop s
    have pushes := tally_cons_eq_add .push s
    rw [level_cons_eq_some_iff]
    constructor
    · rintro ⟨e, first, rest⟩
      obtain ⟨-, after⟩ := symbolLevel_eq_some_iff.1 first
      obtain ⟨prefixes, total⟩ := ih.1 rest
      refine ⟨fun v hv => ?_, ?_⟩
      · rcases List.prefix_cons_iff.1 hv with rfl | ⟨u, rfl, hu⟩
        · simp
        · have := prefixes u hu
          rw [pops, pushes]
          omega
      · rw [pops, pushes]
        omega
    · rintro ⟨prefixes, total⟩
      have first := prefixes [s] ((List.prefix_cons_inj s).2 List.nil_prefix)
      refine ⟨d + tally .push [s] - tally .pop [s], symbolLevel_eq_some_iff.2 (by omega),
        ih.2 ⟨fun v hv => ?_, ?_⟩⟩
      · have := prefixes (s :: v) ((List.prefix_cons_inj s).2 hv)
        rw [pops, pushes] at this
        omega
      · rw [pops, pushes] at total
        omega

/-- Branches that are open before a word and stay so do not matter. -/
theorem level_add (h : level d w = some k) (m : Nat) : level (d + m) w = some (k + m) := by
  obtain ⟨prefixes, total⟩ := level_eq_some_iff.1 h
  refine level_eq_some_iff.2 ⟨fun v hv => ?_, by omega⟩
  have := prefixes v hv
  omega

theorem Balanced.level_eq (balanced : w.Balanced) (d : Nat) : level d w = some d := by
  have := level_add balanced d
  rwa [Nat.zero_add] at this

theorem Balanced.tally_eq (balanced : w.Balanced) : tally .pop w = tally .push w := by
  have := (level_eq_some_iff.1 balanced).2
  omega

/-- A balanced word in brackets is balanced. -/
theorem Balanced.bracket (balanced : w.Balanced) : Balanced (.push :: w ++ [.pop]) := by
  have inside : level 1 w = some 1 := balanced.level_eq 1
  rw [Balanced, List.cons_append, level_cons]
  exact level_append_of_eq_some inside [.pop]

/-- The count is lost at the first symbol that closes a branch when none is open. -/
theorem level_eq_none_iff :
    level d w = none ↔ ∃ v u, w = v ++ .pop :: u ∧ level d v = some 0 := by
  constructor
  · intro lost
    induction w generalizing d with
    | nil => cases lost
    | cons s w ih =>
      cases first : s.level d with
      | none =>
        unfold Symbol.level at first
        split at first
        · cases first
        · next act =>
          split at first
          · next none_open =>
            exact ⟨[], w, by rw [Symbol.action_eq_pop_iff.1 act]; rfl, by rw [level_nil, none_open]⟩
          · cases first
        · cases first
      | some e =>
        rw [level_cons, first, Option.bind_some] at lost
        obtain ⟨v, u, rfl, before⟩ := ih lost
        exact ⟨s :: v, u, rfl, level_cons_eq_some_iff.2 ⟨e, first, before⟩⟩
  · rintro ⟨v, u, rfl, before⟩
    exact level_append_of_eq_some before _

end Word

end PlantGrammar
