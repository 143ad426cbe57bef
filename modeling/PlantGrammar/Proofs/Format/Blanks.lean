import PlantGrammar.Proofs.Drawing.Silence
import PlantGrammar.Proofs.Format.Rules
import PlantGrammar.Random.Scripted

/-!
# Blanks in rules

A replacement that is read from a document keeps its blanks as literals, one that is given as a text
is read without them.  Blanks have no rules, so each of them stays what it is while the rest of the
word grows as if it were not there, and the turtle passes over it.

* `RuleTable.WithoutBlanks.filter_expand`: an expansion without its blanks is the expansion by the
  rules without blanks.
* `Species.grow_from_document`: rules read from a document and the same rules given as texts make
  the same words, up to blanks, and the same plants.
-/

namespace PlantGrammar

/-- The symbol is not a blank that is taken literally. -/
def Symbol.isVisible : Symbol → Bool
  | literal c => !Text.isBlank c
  | _ => true

theorem Symbol.action_of_not_isVisible (s : Symbol) (blank : s.isVisible = false) :
    s.action = .ignore := by
  cases s with
  | literal c => rfl
  | push | pop | internode | bud | shoot | turn | flower => cases blank

/-- No character with a meaning of its own is a blank. -/
theorem Symbol.isVisible_ofChar (c : Char) : (ofChar c).isVisible = !Text.isBlank c := by
  unfold ofChar
  split <;> rfl

namespace Word

/-- A text is read as its characters are, without the blanks among them. -/
theorem ofText_eq_filter (s : String) :
    ofText s = (ofChars s.toList).filter Symbol.isVisible := by
  rw [ofText, ofChars, ofChars, List.filter_map]
  congr 2
  funext c
  exact (Symbol.isVisible_ofChar c).symm

theorem filter_ofText (s : String) : (ofText s).filter Symbol.isVisible = ofText s := by
  rw [ofText_eq_filter, List.filter_filter]
  simp only [Bool.and_self]

end Word

namespace RuleTable

variable {t u : RuleTable}

/-- The rules of `u` are those of `t` with the blanks in their replacements left out; blanks
themselves have no rules. -/
structure WithoutBlanks (t u : RuleTable) : Prop where
  get?_blank : ∀ s, s.isVisible = false → t.get? s = none
  get?_eq : ∀ s, u.get? s = (t.get? s).map (List.filter Symbol.isVisible)

theorem WithoutBlanks.filter_image (without : t.WithoutBlanks u) {s : Symbol}
    (visible : s.isVisible = true) : (t.image s).filter Symbol.isVisible = u.image s := by
  rw [image, image, without.get?_eq]
  cases t.get? s with
  | none => exact List.filter_cons_of_pos visible
  | some w => rfl

/-- A blank stays alone. -/
theorem WithoutBlanks.filter_image_blank (without : t.WithoutBlanks u) {s : Symbol}
    (blank : s.isVisible = false) : (t.image s).filter Symbol.isVisible = [] := by
  rw [image, without.get?_blank s blank]
  exact List.filter_cons_of_neg (Bool.eq_false_iff.1 blank)

theorem WithoutBlanks.filter_pass (without : t.WithoutBlanks u) (w : Word) :
    (t.pass w).filter Symbol.isVisible = u.pass (w.filter Symbol.isVisible) := by
  induction w with
  | nil => rfl
  | cons s w ih =>
    rw [pass_cons, List.filter_append, ih]
    by_cases visible : s.isVisible = true
    · rw [List.filter_cons_of_pos visible, pass_cons, without.filter_image visible]
    · rw [List.filter_cons_of_neg visible,
        without.filter_image_blank (Bool.eq_false_iff.2 visible), List.nil_append]

theorem WithoutBlanks.filter_expand (without : t.WithoutBlanks u) (w : Word) (n : Nat) :
    (t.expand w n).filter Symbol.isVisible = u.expand (w.filter Symbol.isVisible) n := by
  induction n generalizing w with
  | zero => rfl
  | succ n ih => rw [expand_succ, expand_succ, ih, without.filter_pass]

/-- Texts for characters that are not blank, read with their blanks and without them. -/
theorem withoutBlanks_of_texts {es : List (Char × String)}
    (unblank : ∀ e ∈ es, Text.isBlank e.1 = false) (read : t.entries = es.map Rules.ofText)
    (given : u.entries.Perm (es.map fun e => (Symbol.ofChar e.1, Word.ofText e.2))) :
    t.WithoutBlanks u where
  get?_blank s blank := by
    apply Option.eq_none_iff_forall_ne_some.2
    intro w rule
    rw [get?_eq_some_iff, read] at rule
    obtain ⟨e, mem, made⟩ := List.mem_map.1 rule
    cases made
    rw [Symbol.isVisible_ofChar, unblank e mem] at blank
    cases blank
  get?_eq s := by
    apply Option.ext
    intro w
    rw [get?_eq_some_iff, given.mem_iff, Option.map_eq_some_iff]
    constructor
    · intro rule
      obtain ⟨e, mem, made⟩ := List.mem_map.1 rule
      cases made
      refine ⟨Word.ofChars e.2.toList, ?_, (Word.ofText_eq_filter e.2).symm⟩
      rw [get?_eq_some_iff, read]
      exact List.mem_map_of_mem mem
    · rintro ⟨v, rule, rfl⟩
      rw [get?_eq_some_iff, read] at rule
      obtain ⟨e, mem, made⟩ := List.mem_map.1 rule
      cases made
      rw [← Word.ofText_eq_filter]
      exact List.mem_map_of_mem mem

end RuleTable

namespace Species

open RandomSource

/-- Rules that are read from a document, and the same rules given as texts one by one in any order,
make the same words except for blanks, and the same plants: bit for bit the same mesh, or the same
error at the same visible symbol, after equally many random words. -/
theorem grow_from_document {es : List (Char × String)} {rules : List (Symbol × Word)}
    (distinct : (es.map Prod.fst).Nodup) (unblank : ∀ e ∈ es, Text.isBlank e.1 = false)
    (given : rules.Perm (es.map fun e => (Symbol.ofChar e.1, Word.ofText e.2))) :
    let u := RuleTable.empty.insertAll rules
    ∃ t, RuleTable.ofJson? (Rules.document es) = some t ∧
      (∀ seed n, (t.expand (Word.ofText seed) n).filter Symbol.isVisible =
        u.expand (Word.ofText seed) n) ∧
      ∀ (h : Habit) (f : Flower), ∃ k, ∀ {σ : Type} [RandomSource σ] (source : σ) (j j' : Journal),
        let read := (⟨t, h⟩ : Species).grow f source j
        let built := (⟨u, h⟩ : Species).grow f source j'
        let w := t.expand (Word.ofText h.seed) h.iterations.toNat
        built.mesh = read.mesh.mapError (.relocate (w.place Symbol.isVisible)) ∧
          read.source = after k source ∧ built.source = after k source := by
  intro u
  obtain ⟨t, read, entries⟩ := RuleTable.exists_ofJson?_document distinct
  have entries' : u.entries = rules := by
    apply RuleTable.entries_insertAll
    have keys := Rules.nodup_keys_ofText distinct
    rw [List.map_map] at keys
    rw [RuleTable.empty, List.nil_append, (given.map Prod.fst).nodup_iff, List.map_map]
    exact keys
  have without : t.WithoutBlanks u :=
    RuleTable.withoutBlanks_of_texts unblank entries (entries' ▸ given)
  have words (seed : String) (n : Nat) :
      (t.expand (Word.ofText seed) n).filter Symbol.isVisible = u.expand (Word.ofText seed) n := by
    rw [without.filter_expand, Word.filter_ofText]
  refine ⟨t, read, words, fun h f => ?_⟩
  refine ⟨(Layout.executed f [] (t.expand (Word.ofText h.seed) h.iterations.toNat)).draws,
    fun source j j' => ?_⟩
  obtain ⟨j₁, grown⟩ := grow_eq_build t h f source j
  obtain ⟨j₂, grown'⟩ := grow_eq_build u h f source j'
  obtain ⟨mesh, rest⟩ := build_filter Symbol.action_of_not_isVisible { habit := h }
    (t.expand (Word.ofText h.seed) h.iterations.toNat) f source j₂ j₁
  rw [words h.seed] at mesh rest
  dsimp only
  rw [grown, grown', mesh, rest, source_build_eq]
  exact ⟨rfl, rfl, rfl⟩

/-- The document keeps the blanks of both replacements; the rules are given in another order. -/
theorem grow_from_document_of_two :
    let es := [('B', "D [+B]"), ('x', " F")]
    let rules := [(Symbol.literal 'x', Word.ofText "F"), (Symbol.bud, Word.ofText "D[+B]")]
    let u := RuleTable.empty.insertAll rules
    (es.map Prod.fst).Nodup ∧ (∀ e ∈ es, Text.isBlank e.1 = false) ∧
    rules.Perm (es.map fun e => (Symbol.ofChar e.1, Word.ofText e.2)) ∧
    ∃ t, RuleTable.ofJson? (Rules.document es) = some t ∧
      (t.expand (Word.ofText "Bx") 2).filter Symbol.isVisible = u.expand (Word.ofText "Bx") 2 ∧
      ∃ k, (grow ⟨t, { seed := "Bx" }⟩ .empty (⟨[4], 2⟩ : Scripted) (.start none)).source =
          after k ⟨[4], 2⟩ ∧
        (grow ⟨u, { seed := "Bx" }⟩ .empty (⟨[4], 2⟩ : Scripted) (.start none)).source =
          after k ⟨[4], 2⟩ := by
  intro es rules u
  have distinct : (es.map Prod.fst).Nodup := by decide
  have unblank : ∀ e ∈ es, Text.isBlank e.1 = false := by decide
  have given : rules.Perm (es.map fun e => (Symbol.ofChar e.1, Word.ofText e.2)) := by decide
  obtain ⟨t, read, words, plants⟩ := grow_from_document distinct unblank given
  obtain ⟨k, same⟩ := plants { seed := "Bx" } .empty
  obtain ⟨-, left, left'⟩ := same (⟨[4], 2⟩ : Scripted) (.start none) (.start none)
  exact ⟨distinct, unblank, given, t, read, words "Bx" 2, k, left, left'⟩

end Species

end PlantGrammar
