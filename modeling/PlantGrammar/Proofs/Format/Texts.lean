import PlantGrammar.Proofs.Format.Blanks

/-!
# The text of a word

A word is written with one character for each symbol, and read back without the blanks.  So a text
loses its blanks and nothing else when it is read and written.  A word comes back from its text unless
it has a literal that is read as something else: a blank, which is not read at all, or one of the seven
characters with a meaning.  The blanks that are lost are not missed in drawing.

* `Word.text_ofText`: the text of the word that a text is read as.
* `Word.ofText_text_eq_self_iff`: which words come back from their texts.
* `Word.ofText_text_of_canonical`: what comes back of a word of canonical symbols.
-/

namespace PlantGrammar

theorem Symbol.isVisible_iff {s : Symbol} :
    s.isVisible = true ↔ ∀ c, Text.isBlank c = true → s ≠ .literal c := by
  cases s with
  | literal d =>
    show (!Text.isBlank d) = true ↔ _
    rw [Bool.not_eq_true', Bool.eq_false_iff]
    constructor
    · intro visible c blank same
      cases same
      exact visible blank
    · intro others blank
      exact others d blank rfl
  | push | pop | internode | bud | shoot | turn | flower =>
    exact iff_of_true rfl (fun c _ => Symbol.noConfusion)

namespace Word

variable {w : Word}

theorem text_ofText (t : String) :
    (ofText t).text = String.ofList (t.toList.filter fun c => !Text.isBlank c) := by
  rw [← toList_text_ofText, String.ofList_toList]

/-- Everything that is read from a text is read back from its own character, and is no blank. -/
theorem canonical_and_isVisible_of_mem_ofText {t : String} {s : Symbol} (mem : s ∈ ofText t) :
    s.Canonical ∧ s.isVisible = true := by
  rw [ofText_eq_filter] at mem
  obtain ⟨read, visible⟩ := List.mem_filter.1 mem
  obtain ⟨c, -, rfl⟩ := List.mem_map.1 read
  exact ⟨Symbol.canonical_ofChar c, visible⟩

theorem ofText_text_of_canonical (canonical : ∀ s ∈ w, s.Canonical) :
    ofText w.text = w.filter Symbol.isVisible := by
  rw [ofText_eq_filter, toList_text, ofChars_map_toChar canonical]

theorem ofText_text_eq_self_iff :
    ofText w.text = w ↔ ∀ s ∈ w, s.Canonical ∧ s.isVisible = true := by
  constructor
  · intro same s mem
    rw [← same] at mem
    exact canonical_and_isVisible_of_mem_ofText mem
  · intro kept
    rw [ofText_text_of_canonical fun s mem => (kept s mem).1]
    exact List.filter_eq_self.2 fun s mem => (kept s mem).2

/-- Both conditions on the symbols of a word name literals that it must not have. -/
theorem forall_canonical_and_isVisible_iff :
    (∀ s ∈ w, s.Canonical ∧ s.isVisible = true) ↔
      (∀ c, Text.isBlank c = true → Symbol.literal c ∉ w) ∧
        ∀ c ∈ "[]DBS+F".toList, Symbol.literal c ∉ w := by
  constructor
  · intro kept
    refine ⟨fun c blank mem => ?_, fun c reserved mem => ?_⟩
    · exact Symbol.isVisible_iff.1 (kept _ mem).2 c blank rfl
    · exact Symbol.canonical_iff.1 (kept _ mem).1 (List.mem_map_of_mem reserved)
  · rintro ⟨unblank, unreserved⟩ s mem
    refine ⟨Symbol.canonical_iff.2 fun reserved => ?_, Symbol.isVisible_iff.2 fun c blank same => ?_⟩
    · obtain ⟨c, named, rfl⟩ := List.mem_map.1 reserved
      exact unreserved c named mem
    · exact unblank c blank (same ▸ mem)

/-- A text that is read and written again has lost its blanks.  A word that is written and read again
is the same exactly if none of its literals is a blank or one of the seven characters with a meaning.
If all its symbols are read back from their characters, then it has lost its blanks, and every mesh that
is drawn for it is drawn for what is left of it. -/
theorem read_and_written :
    (∀ t : String, (ofText t).text = String.ofList (t.toList.filter fun c => !Text.isBlank c)) ∧
    (∀ w : Word, ofText w.text = w ↔
      (∀ c, Text.isBlank c = true → Symbol.literal c ∉ w) ∧
        ∀ c ∈ "[]DBS+F".toList, Symbol.literal c ∉ w) ∧
    ∀ w : Word, (∀ s ∈ w, s.Canonical) →
      ofText w.text = w.filter Symbol.isVisible ∧
      ∀ {σ : Type} [RandomSource σ] (sp : Species) (f : Flower) (source : σ) (j j' : Journal)
        (m : Mesh), (sp.build w f source j).mesh = .ok m →
          (sp.build (ofText w.text) f source j').mesh = .ok m := by
  refine ⟨text_ofText, fun w => ?_, fun w canonical => ⟨?_, ?_⟩⟩
  · exact ofText_text_eq_self_iff.trans forall_canonical_and_isVisible_iff
  · exact ofText_text_of_canonical canonical
  · intro σ _ sp f source j j' m drawn
    obtain ⟨mesh, -⟩ :=
      Species.build_filter Symbol.action_of_not_isVisible sp w f source j' j
    rw [ofText_text_of_canonical canonical, mesh, drawn]
    rfl

/-- Two blanks are lost, and the branch is drawn as before. -/
theorem read_and_written_of_blanks :
    let w : Word := [.literal 'x', .literal ' ', .push, .turn, .literal '\u3000', .bud, .pop]
    (∀ s ∈ w, s.Canonical) ∧ ofText w.text = [.literal 'x', .push, .turn, .bud, .pop] ∧
    ∃ m, (({} : Species).build w .empty (⟨[5], 7⟩ : Scripted) (.start none)).mesh = .ok m ∧
      (({} : Species).build (ofText w.text) .empty (⟨[5], 7⟩ : Scripted) (.start none)).mesh =
        .ok m := by
  intro w
  have canonical : ∀ s ∈ w, s.Canonical := by decide
  obtain ⟨m, drawn⟩ := Species.exists_mesh_build (f := .empty) (w := w) (by decide) {}
    (⟨[5], 7⟩ : Scripted) (.start none)
  obtain ⟨-, -, reread⟩ := read_and_written
  obtain ⟨left, meshes⟩ := reread w canonical
  exact ⟨canonical, left, m, drawn, meshes {} .empty _ _ _ m drawn⟩

/-- A literal is taken for the bud that is written in the same way. -/
example : ofText (text [.literal 'B']) = [.bud] := by decide

end Word

end PlantGrammar
