import Mathlib.Data.List.Forall2
import PlantGrammar.Json.Value

/-!
# Readings of values

What a value has to be if it is read as a character, as a name or as a list.

* `Json.asChar?_eq_some_iff`, `Json.asName?_eq_some_iff`: the one spelling of a character, and the two
  of a name.
* `Json.asList?_eq_some_iff`: a list is read from an array, item by item.
-/

namespace PlantGrammar.Json

theorem asChar?_eq_some_iff {v : Json} {c : Char} : v.asChar? = some c ↔ v = .ofChar c := by
  constructor
  · intro one
    unfold asChar? at one
    split at one
    · next s =>
      split at one
      · next d only =>
        cases one
        rw [ofChar, ← only, String.ofList_toList]
      · cases one
    · cases one
  · rintro rfl
    rw [ofChar, asChar?, String.toList_ofList]

theorem asName?_eq_some_iff {v : Json} {n : String} :
    v.asName? = some n ↔ v = .string n ∨ v = .object [(n, .null)] := by
  constructor
  · intro named
    unfold asName? asChoice? at named
    split at named
    · next chosen =>
      split at chosen
      · cases chosen
        cases named
        exact .inl rfl
      · cases chosen
      · cases chosen
    · next chosen =>
      split at chosen
      · cases chosen
      · cases chosen
        cases named
        exact .inr rfl
      · cases chosen
    · cases named
  · rintro (rfl | rfl)
    · rfl
    · rfl

theorem mapM_eq_some_iff {α β : Type} {item : β → Option α} {items : List β} {xs : List α} :
    items.mapM item = some xs ↔ List.Forall₂ (fun i x => item i = some x) items xs := by
  induction items generalizing xs with
  | nil =>
    rw [List.mapM_nil, List.forall₂_nil_left_iff]
    exact ⟨fun read => (Option.some.inj read).symm, fun read => read ▸ rfl⟩
  | cons i items ih =>
    rw [List.mapM_cons, List.forall₂_cons_left_iff]
    constructor
    · intro read
      obtain ⟨x, first, rest⟩ := Option.bind_eq_some_iff.1 read
      obtain ⟨ys, others, all⟩ := Option.bind_eq_some_iff.1 rest
      exact ⟨x, ys, first, ih.1 others, (Option.some.inj all).symm⟩
    · rintro ⟨x, ys, first, others, rfl⟩
      rw [first, ih.2 others]
      rfl

theorem asList?_eq_some_iff {α : Type} {item : Json → Option α} {v : Json} {xs : List α} :
    v.asList? item = some xs ↔
      ∃ items, v = .array items ∧ List.Forall₂ (fun i x => item i = some x) items xs := by
  constructor
  · intro read
    unfold asList? at read
    split at read
    · next items => exact ⟨items, rfl, mapM_eq_some_iff.1 read⟩
    · cases read
  · rintro ⟨items, rfl, read⟩
    exact mapM_eq_some_iff.2 read

end PlantGrammar.Json
