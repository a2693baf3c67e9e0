import TableSchema.Text.CodePoint

/-!
# JSON values and their text

`Json.render` writes a value on one line, or with every item on a line of its own.  Strings escape the quotation
mark, the backslash and the code points below U+0020, and nothing else.
-/

namespace TableSchema.Text

/-- A JSON value.  Members keep their order. -/
inductive Json
  | null
  | bool (value : Bool)
  | number (value : Nat)
  | string (text : String)
  | array (items : List Json)
  | object (members : List (String × Json))

namespace Json

/-- A text or null. -/
def ofOption (value : Option String) : Json :=
  (value.map string).getD null

/-- One character inside a JSON string. -/
def escapedChar (c : Char) : List Char :=
  if c == '\x22' then ['\\', '\x22']
  else if c == '\\' then ['\\', '\\']
  else if c == '\x08' then ['\\', 'b']
  else if c == '\t' then ['\\', 't']
  else if c == '\n' then ['\\', 'n']
  else if c == '\x0c' then ['\\', 'f']
  else if c == '\r' then ['\\', 'r']
  else if c.toNat < 0x20 then '\\' :: 'u' :: (hexDigits 4 c.toNat).toList
  else [c]

/-- A text as a JSON string. -/
def quoteChars (text : String) : List Char :=
  '\x22' :: text.toList.flatMap escapedChar ++ ['\x22']

/-- The break before an item at a depth: none on one line, else a line ending and `indent` spaces per level. -/
def lineBreak (indent : Option Nat) (depth : Nat) : List Char :=
  match indent with
  | none => []
  | some width => '\n' :: List.replicate (width * depth) ' '

/-- What stands between a name and its value. -/
def colon (indent : Option Nat) : List Char :=
  if indent.isSome then [':', ' '] else [':']

mutual
/-- The text of a value whose items stand one level below `depth`. -/
def chars (indent : Option Nat) (depth : Nat) : Json → List Char
  | null => "null".toList
  | bool value => (if value then "true" else "false").toList
  | number value => (toString value).toList
  | string text => quoteChars text
  | array [] => ['[', ']']
  | array (item :: items) =>
    '[' :: lineBreak indent (depth + 1) ++ chars indent (depth + 1) item ++ itemChars indent (depth + 1) items
      ++ lineBreak indent depth ++ [']']
  | object [] => ['\x7b', '\x7d']
  | object ((name, value) :: members) =>
    '\x7b' :: lineBreak indent (depth + 1) ++ quoteChars name ++ colon indent ++ chars indent (depth + 1) value
      ++ memberChars indent (depth + 1) members ++ lineBreak indent depth ++ ['\x7d']

/-- The text of the items after the first, each behind a comma. -/
def itemChars (indent : Option Nat) (depth : Nat) : List Json → List Char
  | [] => []
  | item :: items => ',' :: lineBreak indent depth ++ chars indent depth item ++ itemChars indent depth items

/-- The text of the members after the first, each behind a comma. -/
def memberChars (indent : Option Nat) (depth : Nat) : List (String × Json) → List Char
  | [] => []
  | (name, value) :: members =>
    ',' :: lineBreak indent depth ++ quoteChars name ++ colon indent ++ chars indent depth value
      ++ memberChars indent depth members
end

/-- The text of a value, on one line or with an indent per level. -/
def render (indent : Option Nat) (value : Json) : String :=
  String.ofList (value.chars indent 0)

end Json

end TableSchema.Text
