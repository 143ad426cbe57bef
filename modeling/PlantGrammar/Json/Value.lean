/-!
# JSON values

The values of JSON texts. Numbers are whole numbers of 64 bits or binary32 numbers, whose precision
is all that the formats of this library keep. Some well-formed texts have parts without a value: a
number beyond all bounds, or a string that is not Unicode text. They are kept as `unreadable`, since
they do no harm where a value is not looked at.
-/

namespace PlantGrammar

/-- A JSON value. The members of an object are in the order of the text, repeated ones included. -/
inductive Json where
  | null
  | bool (b : Bool)
  | integer (n : Int)
  | real (x : Float32)
  | string (s : String)
  | array (items : List Json)
  | object (members : List (String × Json))
  /-- A well-formed part of a text that stands for no value. -/
  | unreadable

namespace Json

/-- The value of a number, or null for what JSON has no numeral for. -/
def ofFloat32 (x : Float32) : Json := if x.isFinite then .real x else .null

def ofUInt32 (n : UInt32) : Json := .integer n.toNat

def ofChar (c : Char) : Json := .string (String.ofList [c])

/-- A whole number is rounded to the nearest binary32 number. -/
def asFloat32? : Json → Option Float32
  | integer n => some (Float32.ofInt n)
  | real x => some x
  | _ => none

/-- Whole numbers from 0 to `2 ^ 32 - 1`. -/
def asUInt32? : Json → Option UInt32
  | integer n => if 0 ≤ n ∧ n < 0x100000000 then some (UInt32.ofNat n.toNat) else none
  | _ => none

def asString? : Json → Option String
  | string s => some s
  | _ => none

/-- A string of one character. -/
def asChar? : Json → Option Char
  | string s =>
    match s.toList with
    | [c] => some c
    | _ => none
  | _ => none

/-- An array all of whose items can be read. -/
def asList? {α : Type} (item : Json → Option α) : Json → Option (List α)
  | array items => items.mapM item
  | _ => none

/-- A choice between alternatives: its name alone, or an object with its name as the only key and
what belongs to the alternative as value. -/
def asChoice? : Json → Option (String × Option Json)
  | string s => some (s, none)
  | object [(s, v)] => some (s, some v)
  | _ => none

/-- The choice of an alternative to which nothing belongs. -/
def asName? (v : Json) : Option String :=
  match v.asChoice? with
  | some (s, none) => some s
  | some (s, some null) => some s
  | _ => none

/-- The values of an object's members with the given key, where at most one may be. -/
def member? (members : List (String × Json)) (key : String) : Option (Option Json) :=
  match members.filter fun m => m.1 = key with
  | [] => some none
  | [m] => some (some m.2)
  | _ => none

/-- The values of the named fields of a record, which is written as an object, where other members
are passed over, or as an array of its fields in order, where the last ones may be missing. -/
def asFields? (names : List String) : Json → Option (List (Option Json))
  | object members => names.mapM (member? members)
  | array items =>
    if items.length ≤ names.length then
      some (items.map some ++ List.replicate (names.length - items.length) none)
    else
      none
  | _ => none

end Json

end PlantGrammar
