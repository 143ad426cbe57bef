import PlantGrammar.Format.Alphabet
import PlantGrammar.Proofs.Format.Values

/-!
# Words in documents

A symbol with a meaning has two spellings in a document, its name alone and an object with its name as
the only key; a literal has one.  Of the two the name alone is written, and both are read.  Since no
two symbols share a spelling, every word comes back from its document, whatever its literals are, and
a document loses nothing but its longer spellings when it is read and written.

* `Symbol.ofJson?_eq_some_iff`: what is read as a symbol.
* `Word.ofJson?_eq_some_iff`: what is read as a word.
-/

namespace PlantGrammar

/-- The name alone, for a name that is the only key of an object and has nothing as value. -/
def Json.shortened : Json → Json
  | object [(n, null)] => string n
  | v => v

namespace Symbol

/-- The spelling of a symbol that is written. -/
inductive Plain : Json → Symbol → Prop where
  | name {s : Symbol} (mem : s ∈ meaningful) : Plain (.string s.name) s
  | literal (c : Char) :
    Plain (.object [("Literal", .string (String.ofList [c]))]) (.literal c)

/-- The spellings of a symbol that are read. -/
inductive Spelled : Json → Symbol → Prop where
  | plain {v : Json} {s : Symbol} (plain : Plain v s) : Spelled v s
  | member {s : Symbol} (mem : s ∈ meaningful) : Spelled (.object [(s.name, .null)]) s

theorem plain_iff {v : Json} {s : Symbol} : Plain v s ↔ v = s.toJson := by
  constructor
  · intro plain
    cases plain with
    | name mem =>
      cases s with
      | literal c => simp [meaningful] at mem
      | push | pop | internode | bud | shoot | turn | flower => rfl
    | literal c => rfl
  · rintro rfl
    cases s with
    | literal c => exact .literal c
    | push | pop | internode | bud | shoot | turn | flower => exact .name (by decide)

/-- A symbol is written as it was read, but for a longer spelling. -/
theorem Spelled.toJson_eq {v : Json} {s : Symbol} (spelled : Spelled v s) :
    s.toJson = v.shortened := by
  cases spelled with
  | plain plain =>
    cases plain with
    | name mem => exact (plain_iff.1 (.name mem)).symm
    | literal c => rfl
  | member mem => exact (plain_iff.1 (.name mem)).symm

theorem find?_name_eq_some_iff {n : String} {s : Symbol} :
    (meaningful.find? fun s => s.name = n) = some s ↔ s ∈ meaningful ∧ s.name = n := by
  constructor
  · intro found
    exact ⟨List.mem_of_find?_eq_some found, by simpa using List.find?_some found⟩
  · rintro ⟨mem, rfl⟩
    have distinct : ∀ s ∈ meaningful, (meaningful.find? fun t => t.name = s.name) = some s := by
      decide
    exact distinct s mem

/-- An alternative that is not the literal with its character has to be given by its name. -/
theorem ofJson?_eq_some_iff {v : Json} {s : Symbol} : ofJson? v = some s ↔ Spelled v s := by
  constructor
  · intro read
    unfold ofJson? at read
    split at read
    · next c chosen =>
      obtain ⟨d, one, rfl⟩ := Option.map_eq_some_iff.1 read
      rw [Json.asChar?_eq_some_iff] at one
      subst one
      unfold Json.asChoice? at chosen
      split at chosen
      · cases chosen
      · cases chosen
        exact .plain (.literal d)
      · cases chosen
    · obtain ⟨n, named, found⟩ := Option.bind_eq_some_iff.1 read
      obtain ⟨mem, rfl⟩ := find?_name_eq_some_iff.1 found
      rcases Json.asName?_eq_some_iff.1 named with rfl | rfl
      · exact .plain (.name mem)
      · exact .member mem
  · intro spelled
    cases spelled with
    | plain plain =>
      cases plain with
      | name mem =>
        have named : ∀ s ∈ meaningful, ofJson? (.string s.name) = some s := by decide
        exact named s mem
      | literal c =>
        show (Json.ofChar c).asChar?.map literal = _
        rw [Json.asChar?_eq_some_iff.2 rfl]
        rfl
    | member mem =>
      have named : ∀ s ∈ meaningful, ofJson? (.object [(s.name, .null)]) = some s := by decide
      exact named s mem

end Symbol

namespace Word

theorem ofJson?_eq_some_iff {v : Json} {w : Word} :
    ofJson? v = some w ↔ ∃ items, v = .array items ∧ List.Forall₂ Symbol.Spelled items w := by
  rw [ofJson?, Json.asList?_eq_some_iff]
  simp only [Symbol.ofJson?_eq_some_iff]

theorem forall₂_plain_toJson (w : Word) : List.Forall₂ Symbol.Plain (w.map Symbol.toJson) w := by
  rw [List.forall₂_map_left_iff, List.forall₂_same]
  exact fun _ _ => Symbol.plain_iff.2 rfl

theorem ofJson?_toJson (w : Word) : ofJson? w.toJson = some w :=
  ofJson?_eq_some_iff.2 ⟨_, rfl, (forall₂_plain_toJson w).imp fun _ _ => Symbol.Spelled.plain⟩

theorem map_toJson_of_spelled {items : List Json} {w : Word}
    (spelled : List.Forall₂ Symbol.Spelled items w) :
    w.map Symbol.toJson = items.map Json.shortened := by
  induction spelled with
  | nil => rfl
  | cons first _ ih => rw [List.map_cons, List.map_cons, first.toJson_eq, ih]

/-- Every word comes back from its document.  A document is read as a word exactly if it is an array
of spellings of the symbols of that word.  When the word is written again, the same word is read from
it, and all its symbols are written plainly: the longer spellings have been shortened, and nothing else
has changed. -/
theorem kept_by_documents :
    (∀ w : Word, ofJson? w.toJson = some w) ∧
    (∀ (v : Json) (w : Word), ofJson? v = some w ↔
      ∃ items, v = .array items ∧ List.Forall₂ Symbol.Spelled items w) ∧
    ∀ (items : List Json) (w : Word), ofJson? (.array items) = some w →
      ofJson? w.toJson = some w ∧ w.toJson = .array (items.map Json.shortened) ∧
        List.Forall₂ Symbol.Plain (items.map Json.shortened) w := by
  refine ⟨ofJson?_toJson, fun _ _ => ofJson?_eq_some_iff, fun items w read => ?_⟩
  obtain ⟨_, same, spelled⟩ := ofJson?_eq_some_iff.1 read
  cases same
  rw [toJson, ← map_toJson_of_spelled spelled]
  exact ⟨ofJson?_toJson w, rfl, forall₂_plain_toJson w⟩

/-- A bud and the literal that has its character are kept apart, and so are the brackets, which are
spelled in two ways here. -/
theorem kept_by_documents_of_both_spellings :
    let items : List Json := [.object [("Push", .null)], .string "Bud",
      .object [("Literal", .string "B")], .object [("Literal", .string " ")], .string "Pop"]
    let w : Word := [.push, .bud, .literal 'B', .literal ' ', .pop]
    ofJson? (.array items) = some w ∧ ofJson? w.toJson = some w ∧
      List.Forall₂ Symbol.Plain (.string "Push" :: items.tail) w := by
  intro items w
  have read : ofJson? (.array items) = some w := by decide
  obtain ⟨-, -, again⟩ := kept_by_documents
  obtain ⟨same, -, plain⟩ := again items w read
  exact ⟨read, same, plain⟩

end Word

end PlantGrammar
