import PlantGrammar.Json.Value
import PlantGrammar.Numeral.Decimal

/-!
# JSON tokens

The lexical part of JSON. The scanner reads one character at a time; what it remembers between two
characters is its mode. Strings are collected as code points, since the two halves of a surrogate
pair are written as two escapes.
-/

namespace PlantGrammar.Json

/-- A lexical unit of a text. -/
inductive Token where
  | openArray
  | closeArray
  | openObject
  | closeObject
  | comma
  | colon
  /-- A number or one of the three words. -/
  | atom (v : Json)
  /-- A string, unless its escapes are not Unicode text. -/
  | text (s : Option String)

namespace Token

/-! ### Numbers -/

/-- Digits without a needless leading zero. -/
def isWhole : List Char → Bool
  | [] => false
  | ['0'] => true
  | '0' :: _ => false
  | ds => ds.all Char.isDigit

/-- At least one digit. -/
def isDigits (ds : List Char) : Bool := !ds.isEmpty && ds.all Char.isDigit

def valueOfDigits (ds : List Char) : Nat :=
  ds.foldl (fun n d => 10 * n + Numeral.Decimal.digitValue d) 0

/-- The exponent of a number, from its mark on; the empty text stands for exponent 0. -/
def exponent? : List Char → Option Int
  | [] => some 0
  | mark :: cs =>
    if mark = 'e' ∨ mark = 'E' then
      match cs with
      | '-' :: ds => if isDigits ds then some (-(valueOfDigits ds : Int)) else none
      | '+' :: ds => if isDigits ds then some (valueOfDigits ds) else none
      | ds => if isDigits ds then some (valueOfDigits ds) else none
    else
      none

/-- The value of a number that is not a whole number of 64 bits. -/
def real (negative : Bool) (whole fraction : List Char) (exponent : Int) : Json :=
  match (Numeral.Decimal.ofDigits negative whole fraction exponent).toFloat32? with
  | some x => .real x
  | none => .unreadable

/-- The value of a number without fraction and exponent. Zero with a minus sign is not a whole
number, since it keeps its sign. -/
def integer (negative : Bool) (whole : List Char) : Json :=
  let n := valueOfDigits whole
  if negative then
    if 0 < n ∧ n ≤ 0x8000000000000000 then .integer (-n) else real true whole [] 0
  else
    if n < 0x10000000000000000 then .integer n else real false whole [] 0

/-- The value of a number after its sign. -/
def unsigned? (negative : Bool) (cs : List Char) : Option Json :=
  let whole := cs.takeWhile Char.isDigit
  if isWhole whole then
    match cs.dropWhile Char.isDigit with
    | [] => some (integer negative whole)
    | '.' :: cs =>
      let fraction := cs.takeWhile Char.isDigit
      if fraction.isEmpty then none
      else
        (exponent? (cs.dropWhile Char.isDigit)).map (real negative whole fraction)
    | cs => (exponent? cs).map (real negative whole [])
  else
    none

/-- The value of a run of letters, digits and signs. -/
def ofBare? : List Char → Option Token
  | ['n', 'u', 'l', 'l'] => some (atom .null)
  | ['t', 'r', 'u', 'e'] => some (atom (.bool true))
  | ['f', 'a', 'l', 's', 'e'] => some (atom (.bool false))
  | '-' :: cs => (unsigned? true cs).map atom
  | cs => (unsigned? false cs).map atom

/-! ### Strings -/

/-- The text with the given code points, given last first. A high surrogate and the low surrogate
after it are one character; alone, neither is a character. -/
def textOfCodes : List Nat → List Char → Option String
  | [], cs => some (String.ofList cs)
  | [u], cs => if u.isValidChar then some (String.ofList (Char.ofNat u :: cs)) else none
  | v :: u :: us, cs =>
    if v.isValidChar then
      textOfCodes (u :: us) (Char.ofNat v :: cs)
    else if 0xDC00 ≤ v ∧ v ≤ 0xDFFF ∧ 0xD800 ≤ u ∧ u ≤ 0xDBFF then
      textOfCodes us (Char.ofNat (0x10000 + (u - 0xD800) * 0x400 + (v - 0xDC00)) :: cs)
    else
      none

/-- The character of an escape of one letter. -/
def ofEscape? : Char → Option Char
  | '"' => some '"'
  | '\\' => some '\\'
  | '/' => some '/'
  | 'b' => some '\x08'
  | 'f' => some '\x0c'
  | 'n' => some '\n'
  | 'r' => some '\r'
  | 't' => some '\t'
  | _ => none

/-- The value of a hexadecimal digit. -/
def hexDigit? (c : Char) : Option Nat :=
  if '0' ≤ c ∧ c ≤ '9' then some (c.toNat - '0'.toNat)
  else if 'a' ≤ c ∧ c ≤ 'f' then some (c.toNat - 'a'.toNat + 10)
  else if 'A' ≤ c ∧ c ≤ 'F' then some (c.toNat - 'A'.toNat + 10)
  else none

/-! ### The scanner -/

/-- What has been read of the token in progress; lists are in reverse. -/
inductive Mode where
  /-- No token is in progress. -/
  | between
  /-- A number or word. -/
  | bare (spelled : List Char)
  /-- A string. -/
  | inText (codes : List Nat)
  /-- A string, after a backslash. -/
  | escape (codes : List Nat)
  /-- A string, within an escape by code point with `missing + 1` digits to come. -/
  | hex (codes : List Nat) (missing value : Nat)

/-- Whether a character can be part of a number or word. -/
def isBare (c : Char) : Bool := c.isAlphanum || c = '+' || c = '-' || c = '.'

/-- A character between two tokens. -/
def start? (c : Char) : Option (List Token × Mode) :=
  match c with
  | '[' => some ([openArray], .between)
  | ']' => some ([closeArray], .between)
  | '\x7b' => some ([openObject], .between)
  | '\x7d' => some ([closeObject], .between)
  | ',' => some ([comma], .between)
  | ':' => some ([colon], .between)
  | '"' => some ([], .inText [])
  | c =>
    if c = ' ' ∨ c = '\t' ∨ c = '\n' ∨ c = '\r' then some ([], .between)
    else if isBare c then some ([], .bare [c])
    else none

/-- The tokens that a character completes, and the mode after it. -/
def next? : Mode → Char → Option (List Token × Mode)
  | .between, c => start? c
  | .bare cs, c =>
    if isBare c then some ([], .bare (c :: cs))
    else do
      let t ← ofBare? cs.reverse
      let (ts, m) ← start? c
      return (t :: ts, m)
  | .inText us, c =>
    if c = '"' then some ([text (textOfCodes us [])], .between)
    else if c = '\\' then some ([], .escape us)
    else if c.toNat < 0x20 then none
    else some ([], .inText (c.toNat :: us))
  | .escape us, c =>
    if c = 'u' then some ([], .hex us 3 0)
    else (ofEscape? c).map fun c => ([], .inText (c.toNat :: us))
  | .hex us missing value, c =>
    (hexDigit? c).map fun d =>
      match missing with
      | 0 => ([], .inText ((16 * value + d) :: us))
      | n + 1 => ([], .hex us n (16 * value + d))

/-- The tokens that the end of the text completes. -/
def finish? : Mode → Option (List Token)
  | .between => some []
  | .bare cs => (ofBare? cs.reverse).map fun t => [t]
  | _ => none

/-- The tokens of the rest of a text, after those read already, which are given last first. -/
def scan? (read : List Token) : Mode → List Char → Option (List Token)
  | m, [] => (finish? m).map fun ts => (ts.reverse ++ read).reverse
  | m, c :: cs =>
    match next? m c with
    | none => none
    | some (ts, m) => scan? (ts.reverse ++ read) m cs

/-- The tokens of a text. -/
def list? (s : String) : Option (List Token) := scan? [] .between s.toList

end Token

end PlantGrammar.Json
