import PlantGrammar.Text.Printable

/-!
# Quoted text

Text between quotation marks, on one line and with visible characters only. Quotation marks,
backslashes and line breaks have short escapes; other characters without a visible form are written
as their code point in hexadecimal.
-/

namespace PlantGrammar.Text

/-- The escape of a character by its code point. -/
def codePointEscape (c : Char) : String :=
  "\\u\x7b" ++ String.ofList (Nat.toDigits 16 c.toNat) ++ "\x7d"

/-- The written form of one character. -/
def escape (c : Char) : String :=
  if c = '"' then "\\\""
  else if c = '\\' then "\\\\"
  else if c = '\n' then "\\n"
  else if c = '\r' then "\\r"
  else if c = '\t' then "\\t"
  else if c = '\x00' then "\\0"
  else if isPrintable c then c.toString
  else codePointEscape c

/-- The text in quotation marks. -/
def quoted (s : String) : String := "\"" ++ String.join (s.toList.map escape) ++ "\""

end PlantGrammar.Text
