import Mathlib
import PlantGrammar.Derivation.Expansion

/-!
# Passes made in place

A pass can also be made without a second word: a cursor goes through the word itself, and the symbol
under it is cut out and its replacement put in, which the cursor then passes over.  The word grows and
shrinks under the cursor, and an empty replacement leaves the cursor where it is; but each edit
brings the end of the word one symbol nearer (`Cursor.ahead_splice?`), so the edits come to an end.

* `RuleTable.eval_splice?`: when no edit is left, the word is the one that the pass makes of it.
-/

namespace PlantGrammar

/-- A word that is edited, and the number of symbols that the cursor has passed. -/
structure Cursor where
  word : Word
  place : Nat

/-- The number of symbols that the cursor has not passed. -/
def Cursor.ahead (c : Cursor) : Nat := c.word.length - c.place

/-- The next edit.  A symbol with a rule gives way to its replacement, of which the cursor stands
behind the last symbol afterwards; a symbol without a rule is passed.  Behind the last symbol of the
word there is nothing to edit. -/
def RuleTable.splice? (t : RuleTable) (c : Cursor) : Option Cursor :=
  match c.word[c.place]? with
  | none => none
  | some s =>
    match t.get? s with
    | some r =>
      some ⟨c.word.take c.place ++ r ++ c.word.drop (c.place + 1), c.place + r.length⟩
    | none => some { c with place := c.place + 1 }

variable {t : RuleTable}

theorem Cursor.ahead_splice? {c c' : Cursor} (edit : t.splice? c = some c') :
    c'.ahead + 1 = c.ahead := by
  unfold RuleTable.splice? at edit
  split at edit
  · cases edit
  · next s here =>
    obtain ⟨inside, -⟩ := List.getElem?_eq_some_iff.1 here
    split at edit
    · next r rule =>
      cases edit
      simp only [ahead, List.length_append, List.length_take, List.length_drop]
      omega
    · cases edit
      simp only [ahead]
      omega

namespace RuleTable

open StateTransition

theorem splice?_end (w : Word) : t.splice? ⟨w, w.length⟩ = none := by
  have nothing : w[w.length]? = none := List.getElem?_eq_none (Nat.le_refl _)
  simp only [splice?, nothing]

/-- What the cursor has passed is not looked at again, and what is ahead of it stays as it was. -/
theorem splice?_append (v : Word) (s : Symbol) (w : Word) :
    t.splice? ⟨v ++ s :: w, v.length⟩ =
      some ⟨v ++ t.image s ++ w, (v ++ t.image s).length⟩ := by
  have here : (v ++ s :: w)[v.length]? = some s := by simp
  have behind : (v ++ s :: w).drop (v.length + 1) = w := by simp
  simp only [splice?, here, image]
  cases rule : t.get? s with
  | none => simp
  | some r => simp [behind]

/-- The cursor gets to the end of the word, and turns what was ahead of it into the pass over it. -/
theorem reaches_splice? (v w : Word) :
    Reaches t.splice? ⟨v ++ w, v.length⟩ ⟨v ++ t.pass w, (v ++ t.pass w).length⟩ := by
  induction w generalizing v with
  | nil =>
    rw [pass_nil, List.append_nil]
    exact .refl
  | cons s w ih =>
    have rest := ih (v ++ t.image s)
    rw [pass_cons, ← List.append_assoc]
    exact .head (Option.mem_def.2 (splice?_append v s w)) rest

/-- Wherever the cursor stands, the edits come to an end, since each leaves one symbol less ahead. -/
theorem dom_eval_splice? (c : Cursor) : (eval t.splice? c).Dom := by
  induction ahead : c.ahead generalizing c with
  | zero =>
    have last : t.splice? c = none := by
      cases edit : t.splice? c with
      | none => rfl
      | some c' =>
        have nearer := Cursor.ahead_splice? edit
        omega
    exact Part.dom_iff_mem.2 ⟨c, mem_eval.2 ⟨.refl, last⟩⟩
  | succ n ih =>
    cases edit : t.splice? c with
    | none => exact Part.dom_iff_mem.2 ⟨c, mem_eval.2 ⟨.refl, edit⟩⟩
    | some c' =>
      have nearer := Cursor.ahead_splice? edit
      rw [reaches_eval (.single (Option.mem_def.2 edit))]
      exact ih c' (by omega)

/-- Editing in place comes to an end, whatever the rules: when it begins at the first symbol of a
word, then with the word that the pass makes of it, and with the cursor behind its last symbol. -/
theorem eval_splice? (t : RuleTable) (w : Word) :
    eval t.splice? ⟨w, 0⟩ = Part.some ⟨t.pass w, (t.pass w).length⟩ ∧
    ∀ c, (eval t.splice? c).Dom := by
  refine ⟨?_, dom_eval_splice?⟩
  apply Part.eq_some_iff.2
  apply mem_eval.2
  exact ⟨reaches_splice? [] w, splice?_end (t.pass w)⟩

end RuleTable

end PlantGrammar
