import PlantGrammar.Word

/-!
# Rule tables

A rule table gives some symbols a replacement; a symbol without a rule stands for itself.

* `RuleTable.get?_insert`: the rule given last for a symbol is the one in force, and no other rule
  changes.
* `RuleTable.same_iff`: `RuleTable.same` decides whether two tables have the same rules, whatever
  the order in which the rules were given.
-/

namespace PlantGrammar

namespace Rules

/-- Gives `s` the replacement `w`, in the place of its rule if it has one, else at the end. -/
def insert (s : Symbol) (w : Word) : List (Symbol × Word) → List (Symbol × Word)
  | [] => [(s, w)]
  | e :: es => if e.1 = s then (s, w) :: es else e :: insert s w es

theorem mem_keys_insert {s k : Symbol} {w : Word} {es : List (Symbol × Word)} :
    k ∈ (insert s w es).map Prod.fst ↔ k = s ∨ k ∈ es.map Prod.fst := by
  induction es with
  | nil => simp [insert]
  | cons e es ih =>
    by_cases h : e.1 = s
    · simp [insert, h]
    · simp only [insert, if_neg h, List.map_cons, List.mem_cons, ih]
      grind

theorem nodup_keys_insert {s : Symbol} {w : Word} {es : List (Symbol × Word)}
    (h : (es.map Prod.fst).Nodup) : ((insert s w es).map Prod.fst).Nodup := by
  induction es with
  | nil => simp [insert]
  | cons e es ih =>
    rw [List.map_cons, List.nodup_cons] at h
    by_cases he : e.1 = s
    · rw [insert, if_pos he, List.map_cons, List.nodup_cons]
      exact he ▸ h
    · rw [insert, if_neg he, List.map_cons, List.nodup_cons, mem_keys_insert]
      exact ⟨fun hm => hm.elim he h.1, ih h.2⟩

theorem lookup_cons_ite (k : Symbol) (e : Symbol × Word) (es : List (Symbol × Word)) :
    (e :: es).lookup k = if k = e.1 then some e.2 else es.lookup k := by
  rw [List.lookup_cons]
  by_cases h : k = e.1
  · simp [h]
  · simp [beq_eq_false_iff_ne.2 h, h]

theorem lookup_insert (s k : Symbol) (w : Word) (es : List (Symbol × Word)) :
    (insert s w es).lookup k = if k = s then some w else es.lookup k := by
  induction es with
  | nil => rw [insert, lookup_cons_ite]
  | cons e es ih =>
    rw [insert]
    split
    · next he => grind [lookup_cons_ite]
    · next he => grind [lookup_cons_ite]

end Rules

/-- Replacements for symbols, at most one each. -/
structure RuleTable where
  /-- The rules, in the order in which their symbols first got one. -/
  entries : List (Symbol × Word)
  nodup_keys : (entries.map Prod.fst).Nodup

namespace RuleTable

/-- The table without rules, under which every symbol stays what it is. -/
def empty : RuleTable := ⟨[], List.nodup_nil⟩

/-- The replacement of `s`, if there is a rule for it. -/
def get? (t : RuleTable) (s : Symbol) : Option Word := t.entries.lookup s

/-- Adds the rule that `s` is replaced by `w`; an earlier rule for `s` is given up. -/
def insert (t : RuleTable) (s : Symbol) (w : Word) : RuleTable :=
  ⟨Rules.insert s w t.entries, Rules.nodup_keys_insert t.nodup_keys⟩

/-- Adds rules one after the other. -/
def insertAll (t : RuleTable) (rules : List (Symbol × Word)) : RuleTable :=
  rules.foldl (fun t r => t.insert r.1 r.2) t

/-- The number of rules. -/
def size (t : RuleTable) : Nat := t.entries.length

/-- The plant rules: a bud grows a stem and a side branch that ends in a bud; a shoot grows a stem,
a flowering side branch, a side branch that ends in a shoot, and turns. -/
def standard : RuleTable :=
  empty.insertAll [(.bud, Word.ofText "D[+B]"), (.shoot, Word.ofText "D[+BF][+S]+")]

/-- The tables give every symbol the same replacement. -/
def Same (t u : RuleTable) : Prop := ∀ s, t.get? s = u.get? s

/-- Whether every rule of each table is a rule of the other. -/
def same (t u : RuleTable) : Bool :=
  t.entries.all (fun e => u.get? e.1 = some e.2) && u.entries.all fun e => t.get? e.1 = some e.2

@[simp]
theorem get?_empty (s : Symbol) : empty.get? s = none := rfl

theorem get?_insert (t : RuleTable) (s k : Symbol) (w : Word) :
    (t.insert s w).get? k = if k = s then some w else t.get? k :=
  Rules.lookup_insert s k w t.entries

theorem mem_entries_of_get? {t : RuleTable} {s : Symbol} {w : Word} (h : t.get? s = some w) :
    (s, w) ∈ t.entries := by
  obtain ⟨l₁, l₂, hl, -⟩ := List.lookup_eq_some_iff.1 h
  simp [hl]

theorem get?_eq_some_iff {t : RuleTable} {s : Symbol} {w : Word} :
    t.get? s = some w ↔ (s, w) ∈ t.entries := by
  refine ⟨mem_entries_of_get?, fun h => ?_⟩
  obtain ⟨es, hn⟩ := t
  simp only [get?] at h ⊢
  induction es with
  | nil => simp at h
  | cons e es ih =>
    rw [List.map_cons, List.nodup_cons] at hn
    rcases List.mem_cons.1 h with rfl | h
    · simp
    · have hs : s ≠ e.1 := fun hs => hn.1 (hs ▸ List.mem_map_of_mem h)
      rw [Rules.lookup_cons_ite, if_neg hs]
      exact ih hn.2 h

theorem same_iff {t u : RuleTable} : t.same u = true ↔ t.Same u := by
  have key : ∀ {a b : RuleTable},
      (a.entries.all fun e => decide (b.get? e.1 = some e.2)) = true ↔
        ∀ s w, a.get? s = some w → b.get? s = some w := by
    intro a b
    simp only [List.all_eq_true, decide_eq_true_eq]
    exact ⟨fun h s w hw => h (s, w) (get?_eq_some_iff.1 hw),
      fun h e he => h e.1 e.2 (get?_eq_some_iff.2 he)⟩
  rw [same, Bool.and_eq_true, key, key]
  constructor
  · rintro ⟨h₁, h₂⟩ s
    cases ht : t.get? s with
    | some w => exact (h₁ s w ht).symm
    | none =>
      cases hu : u.get? s with
      | none => rfl
      | some w => rw [h₂ s w hu] at ht; cases ht
  · exact fun h => ⟨fun s w hw => h s ▸ hw, fun s w hw => h s ▸ hw⟩

instance (t u : RuleTable) : Decidable (t.Same u) := decidable_of_iff _ same_iff

end RuleTable

end PlantGrammar
