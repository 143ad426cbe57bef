import PlantGrammar.Json.Value
import PlantGrammar.Word

/-!
# The format of symbols and words

A symbol is written by its name, a literal as an object that gives its character; a word is the
array of its symbols. Unlike the text of a word, this keeps every symbol apart from every other.
-/

namespace PlantGrammar

namespace Symbol

/-- The symbols with a meaning of their own. -/
def meaningful : List Symbol := [push, pop, internode, bud, shoot, turn, flower]

/-- The name of a symbol; all literals share one. -/
def name : Symbol → String
  | push => "Push"
  | pop => "Pop"
  | internode => "Internode"
  | bud => "Bud"
  | shoot => "Shoot"
  | turn => "Turn"
  | flower => "Flower"
  | literal _ => "Literal"

def toJson : Symbol → Json
  | literal c => .object [((literal c).name, .ofChar c)]
  | s => .string s.name

def ofJson? (v : Json) : Option Symbol :=
  match v.asChoice? with
  | some ("Literal", some c) => c.asChar?.map literal
  | _ => v.asName?.bind fun n => meaningful.find? fun s => s.name = n

end Symbol

namespace Action

def all : List Action := [push, pop, branch, turn, flower, ignore]

def name : Action → String
  | push => "Push"
  | pop => "Pop"
  | branch => "Branch"
  | turn => "Turn"
  | flower => "Flower"
  | ignore => "Ignore"

def toJson (a : Action) : Json := .string a.name

def ofJson? (v : Json) : Option Action :=
  v.asName?.bind fun n => all.find? fun a => a.name = n

end Action

namespace Word

def toJson (w : Word) : Json := .array (w.map Symbol.toJson)

def ofJson? (v : Json) : Option Word := v.asList? Symbol.ofJson?

end Word

end PlantGrammar
