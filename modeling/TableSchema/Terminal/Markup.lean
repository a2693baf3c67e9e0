import TableSchema.Literal.Grammar
import TableSchema.Terminal.Picture
import TableSchema.Terminal.Style
import TableSchema.Text.Quoted

/-!
# Markup

Terminal text may hold tags in brackets, which set its style and do not show.  `escape` protects the brackets of a
text, `render` shows a text with tags, and `display` shows a text whose brackets are protected.
-/

namespace TableSchema.Terminal

open Text (isBlank isWord quoted trim)

/-- Whether a tag can start with a character. -/
def isTagStart (c : Char) : Bool :=
  ('a' ≤ c && c ≤ 'z') || c == '#' || c == '/' || c == '@'

/-- The inside of the tag that starts behind an opening bracket. -/
def tagInside? : List Char → Option (List Char)
  | [] => none
  | c :: rest =>
    let inside := rest.takeWhile fun c => c ≠ ']' ∧ c ≠ '['
    if isTagStart c ∧ rest[inside.length]? = some ']' then some (c :: inside) else none

/-- A piece of a text with tags: plain text, or a tag behind some backslashes. -/
inductive Segment
  | plain (text : List Char)
  | tag (backslashes : Nat) (inside : List Char)
deriving DecidableEq

/-- Puts a character in front of segments. -/
def consChar (c : Char) : List Segment → List Segment
  | .plain text :: rest => .plain (c :: text) :: rest
  | segments => .plain [c] :: segments

/-- The segments of a text.  Backslashes directly before a tag belong to it. -/
def segments (text : List Char) : List Segment :=
  match text with
  | [] => []
  | c :: rest =>
    let backslashes := ((c :: rest).takeWhile (· = '\\')).length
    match (c :: rest).drop backslashes with
    | '[' :: behind =>
      match tagInside? behind with
      | some inside => .tag backslashes inside :: segments (rest.drop (backslashes + inside.length + 1))
      | none => consChar c (segments rest)
    | _ => consChar c (segments rest)
termination_by text.length
decreasing_by all_goals simp only [List.length_cons, List.length_drop]; omega

/-- A tag as text. -/
def tagText (inside : List Char) : List Char :=
  '[' :: inside ++ [']']

/-- A text that ends in a single backslash, with a second one behind it. -/
def doubleLastBackslash (text : List Char) : List Char :=
  match text.reverse with
  | '\\' :: '\\' :: _ => text
  | '\\' :: _ => text ++ ['\\']
  | _ => text

/-- Protects the brackets of a text. -/
def escape (text : List Char) : List Char :=
  let protect : Segment → List Char
    | .plain text => text
    | .tag backslashes inside => List.replicate (2 * backslashes + 1) '\\' ++ tagText inside
  doubleLastBackslash ((segments text).flatMap protect)

/-- Drops every backslash that stands directly before an opening bracket. -/
def dropBracketBackslashes : List Char → List Char
  | '\\' :: '[' :: rest => '[' :: dropBracketBackslashes rest
  | c :: rest => c :: dropBracketBackslashes rest
  | [] => []

/-- Whether a terminal line cannot hold a character: bell, backspace, vertical tab, form feed, carriage return. -/
def isDropped (c : Char) : Bool :=
  c.toNat == 7 || c.toNat == 8 || c.toNat == 11 || c.toNat == 12 || c.toNat == 13

/-- Plain text as it is shown. -/
def showPlain (text : List Char) : List Char :=
  (replacePictures (dropBracketBackslashes text)).filter (!isDropped ·)

/-- Shows a text whose brackets are protected: tags stand as they are. -/
def display (text : List Char) : List Char :=
  let shown : Segment → List Char
    | .plain text => showPlain text
    | .tag backslashes inside => List.replicate backslashes '\\' ++ showPlain (tagText inside)
  (segments (doubleLastBackslash text)).flatMap shown

/-! ### Tags -/

/-- Why a text with tags cannot be shown: a closing tag that closes nothing, parameters that stand for no constant, or a
name that cannot be brought into its normal form. -/
inductive TagFault
  | nothingToClose (position : Nat)
  | notOpen (inside : List Char) (position : Nat)
  | parameters (given read : List Char) (fault : Literal.Fault)
  | style (fault : StyleFault)
deriving DecidableEq

/-- The message of a fault. -/
def TagFault.message : TagFault → String
  | nothingToClose position => s!"closing tag '[/]' at position {position} has nothing to close"
  | notOpen inside position =>
    s!"closing tag '{String.ofList (tagText inside)}' at position {position} doesn't match any open tag"
  | parameters given read (.notExpression fault) =>
    s!"error parsing {quoted (String.ofList read)} in {quoted (String.ofList given)}; {fault.message}"
  | parameters given _ (.noConstant fault) => s!"error parsing {quoted (String.ofList given)}; {fault.message}"
  | style fault => fault.message

/-- A tag that is open: its name, and what stands behind an equals sign. -/
structure OpenTag where
  name : List Char
  parameters : List Char

/-- The name in a tag. -/
def nameIn (inside : List Char) : List Char :=
  inside.takeWhile (· ≠ '=')

/-- The tag that an opening tag opens. -/
def OpenTag.ofInside (inside : List Char) : Except StyleFault OpenTag :=
  (⟨·, (inside.dropWhile (· ≠ '=')).tail⟩) <$> normalForm (nameIn inside)

/-- What is read of parameters: the arguments behind the name of a handler, or all if they have another form. -/
def argumentsIn (parameters : List Char) : List Char :=
  match parameters.dropWhile fun c => isWord c || c = '.' with
  | [] => ['(', ')']
  | c :: rest => if c = '(' ∧ rest.getLast? = some ')' then c :: rest else parameters

/-- Closes a tag.  The parameters of a tag that names a handler must stand for a constant. -/
def OpenTag.close (t : OpenTag) : Except TagFault Unit :=
  let read := argumentsIn (trim isBlank t.parameters)
  if t.name.head? = some '@' ∧ t.parameters ≠ [] then
    match Literal.fault? read with
    | some fault => .error (.parameters t.parameters read fault)
    | none => .ok ()
  else .ok ()

/-- Closes a tag at a position and gives those that stay open: the last one, or the last one of a name. -/
def closeTag (opened : List OpenTag) (inside : List Char) (position : Nat) : Except TagFault (List OpenTag) := do
  match trim isBlank (nameIn inside).tail with
  | [] =>
    match opened with
    | [] => throw (.nothingToClose position)
    | t :: others => (fun _ => others) <$> t.close
  | c :: rest =>
    let name ← (normalForm (c :: rest)).mapError .style
    match opened.find? (·.name = name) with
    | none => throw (.notOpen inside position)
    | some t => (fun _ => opened.eraseP (·.name = name)) <$> t.close

/-- Shows segments that start at a position.  `opened` are the tags that are open, the last one first.  Every other
backslash before a tag is shown, and one that is left over protects the tag. -/
def renderSegments (opened : List OpenTag) (position : Nat) : List Segment → Except TagFault (List Char)
  | [] => .ok []
  | .plain text :: rest => (showPlain text ++ ·) <$> renderSegments opened (position + text.length) rest
  | .tag backslashes inside :: rest =>
    let shown := List.replicate (backslashes / 2) '\\'
    let start := position + backslashes
    let next := start + (tagText inside).length
    if backslashes % 2 = 1 then
      (shown ++ showPlain (tagText inside) ++ ·) <$> renderSegments opened next rest
    else do
      let opened ← if inside.head? = some '/' then closeTag opened inside start
        else (· :: opened) <$> (OpenTag.ofInside inside).mapError .style
      (shown ++ ·) <$> renderSegments opened next rest

/-- Shows a text with tags that starts at a position. -/
def render (position : Nat) (text : List Char) : Except TagFault (List Char) :=
  renderSegments [] position (segments text)

end TableSchema.Terminal
