import PlantGrammar.Derivation.Table

/-!
# Predicted lengths

The length of an expansion is found without writing it out: from the lengths that single symbols
reach in `n` passes follow those of `n + 1` passes. Lengths are counted up to `Growth.limit`, where
they stay, and the count stops early once a further pass changes none of them.
-/

namespace PlantGrammar

namespace Growth

/-- The greatest length that is counted. -/
def limit : Nat := 0xFFFFFFFFFFFFFFFF

/-- Addition that stays at the limit. -/
def add (a b : Nat) : Nat := min (a + b) limit

/-- Lengths of symbols; a symbol that is not listed has length 1. -/
abbrev Lengths := List (Symbol × Nat)

/-- The length of one symbol. -/
def Lengths.get (ls : Lengths) (s : Symbol) : Nat := (ls.lookup s).getD 1

/-- The length of a word whose symbols have the given lengths. -/
def Lengths.total (ls : Lengths) (w : Word) : Nat := w.foldl (fun n s => add n (ls.get s)) 0

end Growth

namespace RuleTable

open Growth

/-- The lengths after one more pass. -/
def nextLengths (t : RuleTable) (ls : Lengths) : Lengths :=
  t.entries.map fun e => (e.1, ls.total e.2)

/-- The lengths after `n` more passes. -/
def lengthsAfter (t : RuleTable) : Nat → Lengths → Lengths
  | 0, ls => ls
  | n + 1, ls =>
    let next := t.nextLengths ls
    if next = ls then ls else t.lengthsAfter n next

/-- The length that `seed` has after `n` passes, or the limit if it has outgrown it. -/
def predictedLength (t : RuleTable) (seed : Word) (n : Nat) : Nat :=
  (t.lengthsAfter n []).total seed

end RuleTable

end PlantGrammar
