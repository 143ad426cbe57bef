import PlantGrammar.Word

/-!
# Sites of symbols

What drawing a symbol does depends on the word before it.  `Word.sites` pairs the symbols of a word
with the words before them, and `Word.tally` counts the symbols of a word for which the turtle does
the same.

* `Word.mem_sites_iff`: the sites are the ways to divide the word before one of its symbols.
* `Word.sites_filter`: the sites that are left when some of the symbols are left out.
-/

namespace PlantGrammar.Word

/-- How many symbols of the word have the given meaning for the turtle, which `Symbol.action_eq_iff`
names. -/
def tally (a : Action) (w : Word) : Nat := w.countP fun s => s.action = a

@[simp]
theorem tally_nil (a : Action) : tally a [] = 0 := rfl

theorem tally_cons (a : Action) (s : Symbol) (w : Word) :
    tally a (s :: w) = tally a w + if s.action = a then 1 else 0 := by
  simp [tally, List.countP_cons]

@[simp]
theorem tally_append (a : Action) (v w : Word) : tally a (v ++ w) = tally a v + tally a w :=
  List.countP_append

@[simp]
theorem tally_singleton (a : Action) (s : Symbol) :
    tally a [s] = if s.action = a then 1 else 0 := by
  simp [tally]

theorem tally_cons_eq_add (a : Action) (s : Symbol) (w : Word) :
    tally a (s :: w) = tally a [s] + tally a w :=
  tally_append a [s] w

/-- Leaving out symbols with other meanings does not change the count. -/
theorem tally_filter {a : Action} {keep : Symbol → Bool} (kept : ∀ s, s.action = a → keep s = true)
    (w : Word) : tally a (w.filter keep) = tally a w := by
  rw [tally, tally, List.countP_filter]
  apply List.countP_congr
  intro s _
  simpa using kept s

/-- The symbols of the word in order, each with the part of the word that stands before it. -/
def sites : Word → List (Word × Symbol)
  | [] => []
  | s :: w => ([], s) :: (sites w).map fun p => (s :: p.1, p.2)

@[simp]
theorem sites_nil : sites [] = [] := rfl

theorem sites_append (v w : Word) :
    sites (v ++ w) = sites v ++ (sites w).map fun p => (v ++ p.1, p.2) := by
  induction v with
  | nil => simp
  | cons s v ih => simp [sites, ih, Function.comp_def]

@[simp]
theorem map_snd_sites (w : Word) : (sites w).map Prod.snd = w := by
  induction w with
  | nil => rfl
  | cons s w ih =>
    rw [sites, List.map_cons, List.map_map]
    exact congrArg (s :: ·) ih

/-- When symbols are left out, they are also missing from what stands before the others. -/
theorem sites_filter (keep : Symbol → Bool) (w : Word) :
    sites (w.filter keep) =
      ((sites w).filter fun p => keep p.2).map fun p => (p.1.filter keep, p.2) := by
  induction w with
  | nil => rfl
  | cons s w ih =>
    by_cases kept : keep s = true
    · simp [sites, kept, ih, List.filter_map, Function.comp_def]
    · simp [sites, kept, ih, List.filter_map, Function.comp_def]

theorem sites_concat (v : Word) (s : Symbol) : sites (v ++ [s]) = sites v ++ [(v, s)] := by
  rw [sites_append]
  simp [sites]

/-- The first site with something to report is that of the first symbol, or one of the others, which
have this symbol before them. -/
theorem findSome?_sites_cons {α : Type} (g : Word → Symbol → Option α) (v : Word) (s : Symbol)
    (w : Word) :
    ((sites (s :: w)).findSome? fun p => g (v ++ p.1) p.2) =
      (g v s).or ((sites w).findSome? fun p => g (v ++ [s] ++ p.1) p.2) := by
  rw [sites, List.findSome?_cons, List.append_nil, List.findSome?_map]
  cases g v s with
  | none => simp [Function.comp_def]
  | some a => rfl

theorem mem_sites_iff {v w : Word} {s : Symbol} : (v, s) ∈ sites w ↔ ∃ u, w = v ++ s :: u := by
  induction w generalizing v with
  | nil => simp
  | cons a w ih =>
    rw [sites, List.mem_cons, List.mem_map]
    constructor
    · rintro (first | ⟨⟨u, b⟩, later, eq⟩)
      · cases first
        exact ⟨w, rfl⟩
      · cases eq
        obtain ⟨rest, rfl⟩ := ih.1 later
        exact ⟨rest, rfl⟩
    · rintro ⟨u, eq⟩
      cases v with
      | nil =>
        cases eq
        exact .inl rfl
      | cons b v =>
        cases eq
        exact .inr ⟨(v, s), ih.2 ⟨u, rfl⟩, rfl⟩

end PlantGrammar.Word
