import TableSchema.Literal.Token

/-!
# Readers of tokens

A reader reads tokens or stops.  It may look for one thing after another, as long as nothing of the former is there; a
fault among the tokens that it looks at ends all reading.
-/

namespace TableSchema.Literal

/-- Why a reader stops: nothing that it reads is there, or there is a fault that ends all reading. -/
inductive Stop
  | noMatch
  | fault (fault : SyntaxFault)

/-- A reader reads tokens or stops. -/
abbrev Reader (α : Type) := StateT (List Token) (Except Stop) α

namespace Reader

/-- Stops because nothing fits. -/
def noMatch {α : Type} : Reader α :=
  throw .noMatch

/-- Stops with a fault. -/
def fail {α : Type} (fault : SyntaxFault) : Reader α :=
  throw (.fault fault)

/-- The next token.  A fault there stops all reading. -/
def peek : Reader Kind := do
  match ← get with
  | [] => return .stop
  | t :: _ =>
    match t.kind with
    | .fault fault _ => fail fault
    | kind => return kind

/-- Consumes a token. -/
def advance : Reader Unit :=
  modify List.tail

/-- Reads with a reader, or nothing where it finds nothing. -/
def optional {α : Type} (p : Reader α) : Reader (Option α) := fun tokens =>
  match p tokens with
  | .ok (a, rest) => .ok (some a, rest)
  | .error .noMatch => .ok (none, tokens)
  | .error (.fault fault) => .error (.fault fault)

/-- What a reader would read, without reading it. -/
def ahead {α : Type} (p : Reader α) : Reader (Option α) := do
  let tokens ← get
  let found ← optional p
  set tokens
  return found

/-- Whether a mark is next. -/
def at? (mark : String) : Reader Bool :=
  return (← peek) = .mark mark

/-- Consumes one of some marks if it is next, and gives it. -/
def skipAny? (marks : List String) : Reader (Option String) := do
  match ← peek with
  | .mark mark =>
    unless marks.contains mark do return none
    advance
    return some mark
  | _ => return none

/-- Consumes a mark if it is next. -/
def skip? (mark : String) : Reader Bool :=
  return (← skipAny? [mark]).isSome

/-- Consumes one of some words if it is next. -/
def skipWord? (words : List String) : Reader Bool := do
  match ← peek with
  | .name word =>
    if words.contains word then advance
    return words.contains word
  | _ => return false

/-- Consumes a mark, which must be next. -/
def expect (mark : String) : Reader Unit := do
  unless ← skip? mark do noMatch

/-- Consumes a word, which must be next. -/
def expectWord (word : String) : Reader Unit := do
  unless ← skipWord? [word] do noMatch

/-- The number of tokens that are left. -/
def budget : Reader Nat :=
  return (← get).length

/-- Reads a start and what can be joined to it, again and again.  Each time consumes a token. -/
def extend {α : Type} (step : α → Reader (Option α)) (a : α) : Nat → Reader α
  | 0 => return a
  | budget + 1 => do
    match ← step a with
    | none => return a
    | some b => extend step b budget

/-- Items with commas between them, as many as there are.  A comma may stand behind the last one. -/
def separated {α : Type} (item : Reader α) : Nat → Reader (List α)
  | 0 => return []
  | budget + 1 => do
    match ← optional item with
    | none => return []
    | some a => if ← skip? "," then (a :: ·) <$> separated item budget else return [a]

end Reader

end TableSchema.Literal
