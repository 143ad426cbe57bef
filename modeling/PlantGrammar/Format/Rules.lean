import PlantGrammar.Json.Value
import PlantGrammar.Derivation.Table

/-!
# The format of rule tables

A rule table is written as an object with one member for each rule: the character of the symbol and
the text of its replacement, ordered by character. Every character of a replacement is read as a
symbol, blanks included. Symbols that share a character are not kept apart.
-/

namespace PlantGrammar

namespace Rules

/-- Adds the text for a character to texts in the order of their characters, in place of the text
that the character may have. -/
def insertText (c : Char) (s : String) : List (Char × String) → List (Char × String)
  | [] => [(c, s)]
  | e :: es =>
    if c < e.1 then (c, s) :: e :: es
    else if c = e.1 then (c, s) :: es
    else e :: insertText c s es

/-- The rules as texts, in the order of their characters. -/
def texts (entries : List (Symbol × Word)) : List (Char × String) :=
  entries.foldl (fun es e => insertText e.1.toChar (Word.text e.2) es) []

/-- The rule of one member. -/
def ofMember? (m : String × Json) : Option (Symbol × Word) := do
  let c ← (Json.string m.1).asChar?
  let s ← m.2.asString?
  return (Symbol.ofChar c, Word.ofChars s.toList)

end Rules

namespace RuleTable

def toJson (t : RuleTable) : Json :=
  let member (e : Char × String) : String × Json := (String.ofList [e.1], .string e.2)
  .object [("rules", .object ((Rules.texts t.entries).map member))]

/-- Of several rules for one character the last one is in force. -/
def ofJson? (v : Json) : Option RuleTable :=
  match v.asFields? ["rules"] with
  | some [some (.object members)] => (members.mapM Rules.ofMember?).map empty.insertAll
  | _ => none

end RuleTable

end PlantGrammar
