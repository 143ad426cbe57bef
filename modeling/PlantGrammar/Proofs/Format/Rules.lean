import PlantGrammar.Format.Rules
import PlantGrammar.Proofs.Format.Values

/-!
# Rule tables in documents

A document lists texts for characters.  Read as a table, each of its members is a rule, and no two
members make the same rule, since different characters stand for different symbols.  The other way,
symbols that are written as one character share a member, so a table comes back from its document
only if all its symbols are read back from their characters (`RuleTable.Canonical`).

* `Rules.ordered_texts`, `Rules.perm_texts`: what is written for a table, and in which order.
* `RuleTable.entries_insertAll`: the rules of a table that is built from different symbols.
* `RuleTable.round_trips`: tables written and read back, and documents read and written back.
-/

namespace PlantGrammar

/-- A symbol is not read back from its character if it is a literal of a character with a meaning. -/
theorem Symbol.canonical_iff {s : Symbol} :
    s.Canonical ↔ s ∉ "[]DBS+F".toList.map Symbol.literal := by
  cases s with
  | literal c =>
    have reserved : ofChar c = .literal c ↔ c ∉ "[]DBS+F".toList := by
      unfold ofChar
      split <;> simp_all
    rw [Canonical, toChar, reserved]
    simp only [List.mem_map, literal.injEq, exists_eq_right]
  | push | pop | internode | bud | shoot | turn | flower =>
    exact iff_of_true rfl (by simp)

namespace Rules

/-! ### Texts for characters -/

/-- The texts stand in the order of their characters, of which none has two. -/
def Ordered (es : List (Char × String)) : Prop := es.Pairwise fun a b => a.1 < b.1

variable {c : Char} {s : String} {es : List (Char × String)}

theorem Ordered.nodup_keys (ordered : Ordered es) : (es.map Prod.fst).Nodup := by
  unfold Ordered at ordered
  rw [List.Nodup, List.pairwise_map]
  apply ordered.imp
  intro a b less same
  rw [same] at less
  exact Char.lt_irrefl _ less

theorem mem_keys_insertText {k : Char} :
    k ∈ (insertText c s es).map Prod.fst ↔ k = c ∨ k ∈ es.map Prod.fst := by
  induction es with
  | nil => simp [insertText]
  | cons e es ih =>
    rw [insertText]
    split
    · simp
    · split
      · next same => simp [same]
      · rw [List.map_cons, List.mem_cons, ih, List.map_cons, List.mem_cons]
        exact or_left_comm

theorem perm_insertText (new : c ∉ es.map Prod.fst) : (insertText c s es).Perm ((c, s) :: es) := by
  induction es with
  | nil => exact .refl _
  | cons e es ih =>
    rw [List.map_cons, List.mem_cons, not_or] at new
    rw [insertText]
    by_cases before : c < e.1
    · rw [if_pos before]
    · rw [if_neg before, if_neg new.1]
      exact ((ih new.2).cons e).trans (.swap (c, s) e es)

theorem ordered_insertText (ordered : Ordered es) : Ordered (insertText c s es) := by
  induction es with
  | nil => exact List.pairwise_singleton _ _
  | cons e es ih =>
    obtain ⟨least, rest⟩ := List.pairwise_cons.1 ordered
    rw [insertText]
    by_cases before : c < e.1
    · rw [if_pos before]
      refine List.pairwise_cons.2 ⟨?_, ordered⟩
      intro a mem
      rcases List.mem_cons.1 mem with rfl | mem
      · exact before
      · exact Char.lt_trans before (least a mem)
    · rw [if_neg before]
      by_cases same : c = e.1
      · rw [if_pos same]
        exact List.pairwise_cons.2 ⟨fun a mem => same ▸ least a mem, rest⟩
      · rw [if_neg same]
        refine List.pairwise_cons.2 ⟨?_, ih rest⟩
        intro a mem
        have key : a.1 = c ∨ a.1 ∈ es.map Prod.fst :=
          mem_keys_insertText.1 (List.mem_map_of_mem mem)
        rcases key with here | later
        · rw [here]
          apply Char.not_le.1
          intro not_after
          exact same (Char.le_antisymm not_after (Char.not_lt.1 before))
        · obtain ⟨b, mem, key⟩ := List.mem_map.1 later
          exact key ▸ least b mem

/-- The character of a rule and the text of its replacement. -/
def toText (e : Symbol × Word) : Char × String := (e.1.toChar, Word.text e.2)

theorem texts_eq_foldl (entries : List (Symbol × Word)) :
    texts entries = (entries.map toText).foldl (fun es e => insertText e.1 e.2 es) [] := by
  rw [List.foldl_map]
  rfl

theorem ordered_texts (entries : List (Symbol × Word)) : Ordered (texts entries) := by
  have from_ordered : ∀ (new es : List (Char × String)), Ordered es →
      Ordered (new.foldl (fun es e => insertText e.1 e.2 es) es) := by
    intro new
    induction new with
    | nil => exact fun es ordered => ordered
    | cons e new ih => exact fun es ordered => ih _ (ordered_insertText ordered)
  rw [texts_eq_foldl]
  exact from_ordered _ [] .nil

/-- Rules that are written with different characters keep a text each. -/
theorem perm_texts {entries : List (Symbol × Word)}
    (distinct : ((entries.map toText).map Prod.fst).Nodup) :
    (texts entries).Perm (entries.map toText) := by
  have onto : ∀ (new es : List (Char × String)), ((new ++ es).map Prod.fst).Nodup →
      (new.foldl (fun es e => insertText e.1 e.2 es) es).Perm (new ++ es) := by
    intro new
    induction new with
    | nil => exact fun es _ => .refl es
    | cons e new ih =>
      intro es distinct
      have moved : (new ++ insertText e.1 e.2 es).Perm (e :: (new ++ es)) := by
        have fresh : e.1 ∉ es.map Prod.fst := by
          rw [List.cons_append, List.map_cons, List.nodup_cons, List.map_append] at distinct
          exact fun mem => distinct.1 (List.mem_append_right _ mem)
        exact ((perm_insertText fresh).append_left new).trans List.perm_middle
      refine (ih _ ?_).trans moved
      exact (moved.map Prod.fst).nodup_iff.2 distinct
  have all := onto (entries.map toText) []
  rw [List.append_nil] at all
  rw [texts_eq_foldl]
  exact all distinct

/-! ### Documents -/

/-- The document that gives texts for characters. -/
def document (es : List (Char × String)) : Json :=
  .object [("rules", .object (es.map fun e => (String.ofList [e.1], .string e.2)))]

/-- The rule that is read from the text for a character. -/
def ofText (e : Char × String) : Symbol × Word := (Symbol.ofChar e.1, Word.ofChars e.2.toList)

theorem mapM_ofMember? (es : List (Char × String)) :
    (es.map fun e => (String.ofList [e.1], Json.string e.2)).mapM ofMember? =
      some (es.map ofText) := by
  rw [Json.mapM_eq_some_iff, List.forall₂_map_left_iff, List.forall₂_map_right_iff,
    List.forall₂_same]
  intro e _
  simp [ofMember?, Json.asChar?, Json.asString?, ofText]

theorem toText_ofText (e : Char × String) : toText (ofText e) = e := by
  have text : Word.text (Word.ofChars e.2.toList) = e.2 := by
    rw [← String.toList_inj, Word.toList_text_ofChars]
  rw [ofText, toText, Symbol.toChar_ofChar, text]

/-- Different characters are read as different symbols. -/
theorem nodup_keys_ofText (distinct : (es.map Prod.fst).Nodup) :
    ((es.map ofText).map Prod.fst).Nodup := by
  rw [List.Nodup, List.pairwise_map] at distinct
  rw [List.Nodup, List.pairwise_map, List.pairwise_map]
  apply distinct.imp
  intro a b differ same
  exact differ (Symbol.ofChar_injective same)

theorem insert_of_not_mem {k : Symbol} {w : Word} {rules : List (Symbol × Word)}
    (new : k ∉ rules.map Prod.fst) : insert k w rules = rules ++ [(k, w)] := by
  induction rules with
  | nil => rfl
  | cons e rules ih =>
    rw [List.map_cons, List.mem_cons, not_or] at new
    rw [insert, if_neg (Ne.symm new.1), ih new.2, List.cons_append]

end Rules

namespace RuleTable

open Rules

variable {t u : RuleTable}

/-- Every symbol in the table, with a rule or in a replacement, is read back from its character. -/
def Canonical (t : RuleTable) : Prop := ∀ e ∈ t.entries, e.1.Canonical ∧ ∀ s ∈ e.2, s.Canonical

instance (t : RuleTable) : Decidable t.Canonical :=
  inferInstanceAs (Decidable (∀ e ∈ t.entries, e.1.Canonical ∧ ∀ s ∈ e.2, s.Canonical))

theorem same_of_perm (perm : t.entries.Perm u.entries) : t.Same u := by
  intro s
  apply Option.ext
  intro w
  rw [get?_eq_some_iff, get?_eq_some_iff, perm.mem_iff]

theorem Same.mem_entries_iff (same : t.Same u) {e : Symbol × Word} :
    e ∈ t.entries ↔ e ∈ u.entries := by
  rw [← get?_eq_some_iff (s := e.1), ← get?_eq_some_iff (s := e.1), same]

/-- Rules for symbols that have none yet are added as they are given. -/
theorem entries_insertAll {rules : List (Symbol × Word)}
    (distinct : ((t.entries ++ rules).map Prod.fst).Nodup) :
    (t.insertAll rules).entries = t.entries ++ rules := by
  induction rules generalizing t with
  | nil => exact (List.append_nil _).symm
  | cons r rules ih =>
    have inserted : (t.insert r.1 r.2).entries = t.entries ++ [r] := by
      rw [List.map_append, List.nodup_append] at distinct
      apply insert_of_not_mem
      intro mem
      exact distinct.2.2 r.1 mem r.1 List.mem_cons_self rfl
    have rest : ((t.insert r.1 r.2).insertAll rules).entries =
        (t.insert r.1 r.2).entries ++ rules := by
      apply ih
      rw [inserted, List.append_assoc, List.singleton_append]
      exact distinct
    rw [inserted, List.append_assoc, List.singleton_append] at rest
    exact rest

theorem ofJson?_document (es : List (Char × String)) :
    ofJson? (document es) = some (empty.insertAll (es.map ofText)) := by
  have fields : (document es).asFields? ["rules"] =
      some [some (.object (es.map fun e => (String.ofList [e.1], .string e.2)))] := rfl
  rw [ofJson?, fields]
  simp only [mapM_ofMember?, Option.map_some]

/-- A document with one text for each character can be read, and its members are the rules. -/
theorem exists_ofJson?_document {es : List (Char × String)} (distinct : (es.map Prod.fst).Nodup) :
    ∃ t, ofJson? (document es) = some t ∧ t.entries = es.map ofText :=
  ⟨_, ofJson?_document es, entries_insertAll (nodup_keys_ofText distinct)⟩

theorem canonical_of_entries_eq {es : List (Char × String)} (entries : t.entries = es.map ofText) :
    t.Canonical := by
  intro e mem
  rw [entries] at mem
  obtain ⟨a, -, rfl⟩ := List.mem_map.1 mem
  refine ⟨Symbol.canonical_ofChar a.1, fun s mem => ?_⟩
  obtain ⟨c, -, rfl⟩ := List.mem_map.1 mem
  exact Symbol.canonical_ofChar c

/-- A rule of canonical symbols is read back from what is written for it. -/
theorem Canonical.ofText_toText (canonical : t.Canonical) {e : Symbol × Word}
    (mem : e ∈ t.entries) : ofText (toText e) = e := by
  obtain ⟨key, replacement⟩ := canonical e mem
  rw [toText, ofText, Word.toList_text, Word.ofChars_map_toChar replacement]
  exact Prod.ext key rfl

theorem Canonical.map_ofText_toText (canonical : t.Canonical) :
    (t.entries.map toText).map ofText = t.entries := by
  rw [List.map_map]
  calc t.entries.map (ofText ∘ toText)
      = t.entries.map id := List.map_congr_left fun _ mem => canonical.ofText_toText mem
    _ = t.entries := List.map_id _

/-- The rules of a canonical table are written with different characters. -/
theorem Canonical.nodup_keys_toText (canonical : t.Canonical) :
    ((t.entries.map toText).map Prod.fst).Nodup := by
  have distinct := t.nodup_keys
  rw [List.Nodup, List.pairwise_map] at distinct
  rw [List.Nodup, List.pairwise_map, List.pairwise_map]
  apply distinct.imp_of_mem
  intro a b mem mem' differ same
  apply differ
  rw [← (canonical a mem).1, ← (canonical b mem').1]
  exact congrArg Symbol.ofChar same

/-- Every table is written as a document that can be read, and comes back from it exactly if all its
symbols are read back from their characters.  Every document with one text for each character comes
back from its table, with its members in the order of their characters. -/
theorem round_trips :
    (∀ s : Symbol, s.Canonical ↔ s ∉ "[]DBS+F".toList.map Symbol.literal) ∧
    (∀ t : RuleTable, ∃ u, ofJson? t.toJson = some u ∧ (u.Same t ↔ t.Canonical)) ∧
    ∀ es : List (Char × String), (es.map Prod.fst).Nodup →
      ∃ t es', ofJson? (document es) = some t ∧ t.toJson = document es' ∧ es'.Perm es ∧
        Ordered es' := by
  refine ⟨fun _ => Symbol.canonical_iff, fun t => ?_, fun es distinct => ?_⟩
  · obtain ⟨u, made, entries⟩ := exists_ofJson?_document (ordered_texts t.entries).nodup_keys
    refine ⟨u, made, fun same => ?_, fun canonical => ?_⟩
    · intro e mem
      exact canonical_of_entries_eq entries e (same.mem_entries_iff.2 mem)
    · apply same_of_perm
      have perm := (perm_texts canonical.nodup_keys_toText).map ofText
      rw [canonical.map_ofText_toText] at perm
      rw [entries]
      exact perm
  · obtain ⟨t, made, entries⟩ := exists_ofJson?_document distinct
    have kept : t.entries.map toText = es := by
      rw [entries, List.map_map]
      exact List.map_id'' toText_ofText es
    refine ⟨t, texts t.entries, made, rfl, ?_, ordered_texts t.entries⟩
    have perm : (texts t.entries).Perm (t.entries.map toText) := perm_texts (kept ▸ distinct)
    rw [kept] at perm
    exact perm

/-- Blanks are kept, both as a symbol with a rule and in a replacement. -/
theorem round_trips_of_blanks :
    ([('B', "D [+]"), (' ', "F")].map Prod.fst).Nodup ∧
    ∃ t es', ofJson? (document [('B', "D [+]"), (' ', "F")]) = some t ∧ t.toJson = document es' ∧
      es'.Perm [('B', "D [+]"), (' ', "F")] ∧ Ordered es' := by
  have distinct : ([('B', "D [+]"), (' ', "F")].map Prod.fst).Nodup := by decide
  exact ⟨distinct, round_trips.2.2 _ distinct⟩

/-- A literal is taken for the bud that is written in the same way. -/
example : ¬ (empty.insert (.literal 'B') [.internode]).Canonical := by decide

end RuleTable

end PlantGrammar
