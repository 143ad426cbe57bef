/-!
# Symbols

The alphabet of plant words. Seven characters have a meaning of their own; every other character is
a literal, which stands for itself and is ignored when drawing.

* `Symbol.ofChar` and `Symbol.toChar` relate symbols to characters: `toChar_ofChar` says that
  reading a character loses nothing, `Symbol.Canonical` singles out the symbols that are read back
  from their own character.
* `Symbol.action` is the fixed table of what the turtle does for a symbol; `Symbol.action_eq_iff` names
  the symbols for which it does the same.
-/

namespace PlantGrammar

/-- A letter of a plant word. -/
inductive Symbol where
  /-- Opens a branch: the turtle saves its pose. -/
  | push
  /-- Closes a branch: the turtle returns to the pose saved last. -/
  | pop
  /-- A plain stem segment. -/
  | internode
  /-- A growing bud, drawn as a segment. -/
  | bud
  /-- A growing shoot, drawn as a segment. -/
  | shoot
  /-- A turn to a random orientation. -/
  | turn
  /-- A flower ornament. -/
  | flower
  /-- Any character without a meaning of its own. -/
  | literal (c : Char)
  deriving DecidableEq, Repr

/-- What the turtle does when it reads a symbol. -/
inductive Action where
  /-- Save the pose. -/
  | push
  /-- Return to the saved pose. -/
  | pop
  /-- Draw a segment and move to its end. -/
  | branch
  /-- Take a random orientation. -/
  | turn
  /-- Draw a flower without moving. -/
  | flower
  /-- Do nothing. -/
  | ignore
  deriving DecidableEq, Repr

namespace Symbol

/-- The symbol that a character stands for. -/
def ofChar : Char → Symbol
  | '[' => push
  | ']' => pop
  | 'D' => internode
  | 'B' => bud
  | 'S' => shoot
  | '+' => turn
  | 'F' => flower
  | c => literal c

/-- The character that a symbol is written as. -/
def toChar : Symbol → Char
  | push => '['
  | pop => ']'
  | internode => 'D'
  | bud => 'B'
  | shoot => 'S'
  | turn => '+'
  | flower => 'F'
  | literal c => c

/-- The drawing table. -/
def action : Symbol → Action
  | push => .push
  | pop => .pop
  | internode | bud | shoot => .branch
  | turn => .turn
  | flower => .flower
  | literal _ => .ignore

/-- The symbol is the one that its character stands for: it is not a literal made of one of the
seven characters with a meaning. -/
def Canonical (s : Symbol) : Prop := ofChar s.toChar = s

instance : DecidablePred Canonical := fun s => decEq (ofChar s.toChar) s

/-- Three symbols draw a segment, literals do nothing, and any other symbol has an action of its own. -/
theorem action_eq_iff (s : Symbol) :
    (s.action = .push ↔ s = .push) ∧ (s.action = .pop ↔ s = .pop) ∧
    (s.action = .branch ↔ s = .internode ∨ s = .bud ∨ s = .shoot) ∧
    (s.action = .turn ↔ s = .turn) ∧ (s.action = .flower ↔ s = .flower) ∧
    (s.action = .ignore ↔ ∃ c, s = .literal c) := by
  cases s <;> simp [action]

@[simp]
theorem toChar_ofChar (c : Char) : (ofChar c).toChar = c := by
  unfold ofChar
  split <;> rfl

theorem ofChar_injective {c d : Char} (h : ofChar c = ofChar d) : c = d := by
  rw [← toChar_ofChar c, h, toChar_ofChar]

theorem canonical_ofChar (c : Char) : (ofChar c).Canonical := by
  rw [Canonical, toChar_ofChar]

end Symbol

end PlantGrammar
