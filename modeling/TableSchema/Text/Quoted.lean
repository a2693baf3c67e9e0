import TableSchema.Text.Printable

/-!
# Quoted text

A text as a literal between quotation marks: single ones, unless it holds a single one and no double one.  The mark
and the backslash are escaped, tab and line endings have short escapes, and other characters that do not show as
themselves are written by their code point with two, four or eight hexadecimal digits.
-/

namespace TableSchema.Text

/-- The mark around a text: double only if the text holds a single one and no double one. -/
def quotationMark (text : List Char) : Char :=
  if text.contains '\x27' && !text.contains '\x22' then '\x22' else '\x27'

/-- One character inside quotation marks. -/
def quotedChar (mark c : Char) : String :=
  if c == mark || c == '\\' then String.ofList ['\\', c]
  else if c == '\t' then "\\t"
  else if c == '\n' then "\\n"
  else if c == '\r' then "\\r"
  else if isPrintable c then c.toString
  else if c.toNat ≤ 0xff then "\\x" ++ hexDigits 2 c.toNat
  else if c.toNat ≤ 0xffff then "\\u" ++ hexDigits 4 c.toNat
  else "\\U" ++ hexDigits 8 c.toNat

/-- A text as a literal between quotation marks. -/
def quoted (text : String) : String :=
  let mark := quotationMark text.toList
  mark.toString ++ String.join (text.toList.map (quotedChar mark)) ++ mark.toString

/-- Texts as literals in brackets. -/
def quotedList (texts : List String) : String :=
  "[" ++ ", ".intercalate (texts.map quoted) ++ "]"

end TableSchema.Text
