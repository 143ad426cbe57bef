import PlantGrammar.Json.Token

/-!
# Reading JSON

A text is read strictly: one value, nothing but blanks around it, no comments and no trailing
commas. The reader keeps the arrays and objects that are still open on a stack, so the depth of a
text is not limited.
-/

namespace PlantGrammar.Json

/-- An array or object that is still open; items and members are in reverse. -/
inductive Frame where
  | array (items : List Json)
  /-- An object with the key whose value is being read; a key may be unreadable. -/
  | object (members : List (Option String × Json)) (key : Option String)

/-- What must come next. -/
inductive Expect where
  /-- A value, or, if `mayClose`, the end of an array without items. -/
  | value (mayClose : Bool)
  /-- A key after the given members, or, if `mayClose`, the end of an object without members. -/
  | key (members : List (Option String × Json)) (mayClose : Bool)
  /-- A colon after a key. -/
  | colon (members : List (Option String × Json)) (key : Option String)
  /-- What follows a complete value. -/
  | after (v : Json)

/-- The object with the given members, in reverse. It is unreadable if one of its keys is. -/
def ofMembers (members : List (Option String × Json)) : Json :=
  match members.reverse.mapM fun m => m.1.map fun k => (k, m.2) with
  | some members => .object members
  | none => .unreadable

/-- The effect of one token. -/
def advance? (frames : List Frame) : Expect → Token → Option (List Frame × Expect)
  | .value _, .atom v => some (frames, .after v)
  | .value _, .text s => some (frames, .after (s.elim .unreadable .string))
  | .value _, .openArray => some (.array [] :: frames, .value true)
  | .value _, .openObject => some (frames, .key [] true)
  | .value true, .closeArray =>
    match frames with
    | .array [] :: frames => some (frames, .after (.array []))
    | _ => none
  | .key ms _, .text k => some (frames, .colon ms k)
  | .key [] true, .closeObject => some (frames, .after (.object []))
  | .colon ms k, .colon => some (.object ms k :: frames, .value false)
  | .after v, .comma =>
    match frames with
    | .array items :: frames => some (.array (v :: items) :: frames, .value false)
    | .object ms k :: frames => some (frames, .key ((k, v) :: ms) false)
    | [] => none
  | .after v, .closeArray =>
    match frames with
    | .array items :: frames => some (frames, .after (.array (v :: items).reverse))
    | _ => none
  | .after v, .closeObject =>
    match frames with
    | .object ms k :: frames => some (frames, .after (ofMembers ((k, v) :: ms)))
    | _ => none
  | _, _ => none

/-- Reads the remaining tokens. -/
def ofTokens? (frames : List Frame) (e : Expect) : List Token → Option Json
  | [] =>
    match frames, e with
    | [], .after v => some v
    | _, _ => none
  | t :: ts =>
    match advance? frames e t with
    | none => none
    | some (frames, e) => ofTokens? frames e ts

/-- The value of a text. -/
def ofText? (s : String) : Option Json := (Token.list? s).bind (ofTokens? [] (.value false))

end PlantGrammar.Json
