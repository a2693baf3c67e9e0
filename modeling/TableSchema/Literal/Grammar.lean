import TableSchema.Literal.Expression
import TableSchema.Literal.Reader

/-!
# The grammar of literals

A line is read as an expression, of which `Literal.fault?` tells why it stands for no constant, if it does not.  A line
that is no expression is read a second time with hints, which look for a fault that can be called by its name.
-/

namespace TableSchema.Literal

open Reader

/-- Words that are no names. -/
def reservedWords : List String := [
  "False", "None", "True", "and", "as", "assert", "async", "await", "break", "class", "continue", "def", "del", "elif",
  "else", "except", "finally", "for", "from", "global", "if", "import", "in", "is", "lambda", "nonlocal", "not", "or",
  "pass", "raise", "return", "try", "while", "with", "yield"]

/-! ### Operands -/

/-- The texts that follow each other: whether each is of bytes, whether it is formatted, and its fault. -/
def texts : Nat → Reader (List (Bool × Bool × Option SyntaxFault))
  | 0 => return []
  | budget + 1 => do
    match ← peek with
    | .text bytes formatted fault =>
      advance
      ((bytes, formatted, fault) :: ·) <$> texts budget
    | _ => return []

/-- Joins texts that follow each other, which are of bytes if the first one is. -/
def joinedTexts (bytes : Bool) : Reader Expression := do
  let texts ← texts (← budget)
  for (b, _, fault) in texts do
    if let some fault := fault then fail fault
    if b ≠ bytes then fail .mixedTexts
  if texts.any (·.2.1) then return .withoutValue .formatted
  return ⟨.literal, .ok .constant⟩

/-- The constants that have names. -/
def constantNames : List String :=
  ["True", "False", "None"]

/-- The readers of expressions that stand in parentheses.  Each can give hints. -/
structure Inner where
  sum : Bool → Reader Expression
  expression : Bool → Reader Expression

/-- A name, a constant, texts, or what `enclosed` reads. -/
def operand (enclosed : Reader Expression) : Reader Expression := do
  match ← peek with
  | .name text =>
    if constantNames.contains text then
      advance
      return ⟨.constant text, .ok .constant⟩
    else if reservedWords.contains text then noMatch
    else
      advance
      return .withoutValue (.name text)
  | .number imaginary =>
    advance
    return ⟨.literal, .ok (.number imaginary)⟩
  | .text bytes _ _ => joinedTexts bytes
  | .mark "..." =>
    advance
    return ⟨.constant "ellipsis", .ok .constant⟩
  | _ => enclosed

/-! ### Parentheses -/

/-- The name at a place, if there is one. -/
def nameAt? (start : List Token) : Option String :=
  match start with
  | ⟨.name text, _⟩ :: _ => if reservedWords.contains text then none else some text
  | _ => none

/-- Whether the tokens between two places are a single name. -/
def isSingleName (start behind : List Token) : Bool :=
  (nameAt? start).isSome && start.length = behind.length + 1

/-- The hint about an expression that starts at a place and is given a value, if it can be called by its form. -/
def assignmentHint? (start : List Token) (isName : Bool) (form : Form) : Option SyntaxFault :=
  let startsWithConstant := start.head?.any fun t => constantNames.any (t.kind = .name ·)
  if isName then some .singleEqualsSign
  else if form.isOperand && form ≠ .tuple && !startsWithConstant then some (.assigned form)
  else none

/-- What follows an expression between two places: `:=` and a value, if the expression is a name. -/
def named (inner : Inner) (hints : Bool) (start behind : List Token) (e : Expression) : Reader Expression := do
  let isName := isSingleName start behind
  if ← at? ":=" then
    if !isName && !hints then noMatch
    advance
    let _ ← inner.expression hints
    if !isName then fail (.assignedInside e.form)
    return .withoutValue e.form
  if hints && (← at? "=") then
    if let some hint := assignmentHint? start isName e.form then
      let assigned ← ahead do
        advance
        let _ ← inner.sum hints
        if (← at? "=") || (← at? ":=") then noMatch
      if assigned.isSome then fail hint
  return e

/-- An item in parentheses, which may be behind a star. -/
def item (inner : Inner) (hints : Bool) : Reader (Bool × Expression) := do
  if ← skip? "*" then
    let _ ← inner.sum hints
    return (true, .withoutValue .operation)
  let start ← get
  let e ← inner.expression hints
  let behind ← get
  return (false, ← named inner hints start behind e)

/-- An expression behind a star, which must be one. -/
def starred (inner : Inner) (hints : Bool) : Reader Unit := do
  if (← optional (inner.expression hints)).isNone then fail .nothingBehindStar

/-- What cannot stand alone in parentheses: an expression behind one star or two. -/
def starredAlone (inner : Inner) (hints : Bool) : Reader Expression := do
  if hints then
    if ← skip? "*" then
      starred inner hints
      if ← at? ")" then fail .starAlone
    if ← skip? "**" then
      let _ ← inner.expression hints
      if ← at? ")" then fail .doubleStarAlone
  noMatch

/-- What stands behind an opening parenthesis: an expression, or the items of a tuple. -/
def parenthesized (inner : Inner) (hints : Bool) : Reader Expression := do
  if ← skip? ")" then return .tuple []
  let start ← get
  match ← optional (item inner hints) with
  | some (isStarred, e) =>
    if ← skip? "," then
      let others ← separated (item inner hints) (← budget)
      expect ")"
      return .tuple (e :: others.map (·.2))
    if isStarred then
      set start
      starredAlone inner hints
    else
      expect ")"
      return e
  | none => starredAlone inner hints

/-- The value behind the key of a dictionary and its colon. -/
def entryValue (inner : Inner) (hints : Bool) : Reader Expression := do
  match ← optional (inner.expression hints) with
  | some value => return value
  | none =>
    if (← at? "\x7d") || (← at? ",") then fail .missingValue
    if ← skip? "*" then
      let _ ← inner.sum hints
      fail .starredValue
    noMatch

/-- An entry of a dictionary behind the first one. -/
def entry (inner : Inner) (hints : Bool) : Reader (Option Expression × Expression) := do
  if ← skip? "**" then return (none, ← inner.sum hints)
  let key ← inner.expression hints
  unless ← skip? ":" do fail .missingColon
  return (some key, ← entryValue inner hints)

/-- What follows an entry of a dictionary, up to the closing brace. -/
def entriesBehind (inner : Inner) (hints : Bool) (first : Option Expression × Expression) : Reader Expression := do
  let others ← if ← skip? "," then separated (entry inner hints) (← budget) else pure []
  expect "\x7d"
  return .dictionary (first :: others)

/-- The items of a set behind the first one, up to the closing brace. -/
def setBehind (inner : Inner) (hints : Bool) (first : Expression) : Reader Expression := do
  let others ← if ← skip? "," then separated (item inner hints) (← budget) else pure []
  expect "\x7d"
  return .set (first :: others.map (·.2))

/-- What stands behind an opening brace: a dictionary, or else a set. -/
def braced (inner : Inner) (hints : Bool) : Reader Expression := do
  if ← skip? "\x7d" then return .dictionary []
  if ← at? "**" then return ← entriesBehind inner hints (← entry inner hints)
  let start ← get
  if ← at? "*" then
    let found ← optional do setBehind inner hints (← item inner hints).2
    if let some e := found then return e
    if hints then
      advance
      starred inner hints
    noMatch
  let first ← inner.expression hints
  let behind ← get
  if ← skip? ":" then return ← entriesBehind inner hints (some first, ← entryValue inner hints)
  setBehind inner hints (← named inner hints start behind first)

/-- Looks for hints in the items of a set that stands where none can. -/
def hintsInSet (inner : Inner) : Reader Unit := do
  let _ ← ahead do
    expect "\x7b"
    if ← at? "*" then
      let _ ← ahead do
        advance
        starred inner true
    let _ ← item inner true
    expect ","
    separated (item inner true) (← budget)

/-- An expression in parentheses or braces. -/
def enclosed (inner : Inner) (hints : Bool) : Reader Expression := do
  if ← skip? "(" then parenthesized inner hints
  else if ← skip? "\x7b" then braced inner hints
  else noMatch

/-! ### Calls -/

/-- The sorts of arguments, in the order in which they can follow each other. -/
inductive Argument
  | positional
  | keyword
  | unpacked
deriving DecidableEq

/-- An argument behind one of a sort.  A star can stand behind a keyword. -/
def argument (inner : Inner) (hints : Bool) (last : Argument) : Reader Argument := do
  if ← skip? "**" then
    let _ ← inner.expression hints
    return .unpacked
  if ← skip? "*" then
    if last = .unpacked then
      if hints then fail .starBehindUnpacked else noMatch
    starred inner hints
    return last
  let start ← get
  let e ← inner.expression hints
  let isName := isSingleName start (← get)
  if ← at? "=" then
    if isName then
      advance
      let _ ← inner.expression hints
      return if last = .unpacked then .unpacked else .keyword
    if !hints then noMatch
    if constantNames.any (e.form = .constant ·) then fail (.constantAsKeyword e.form.text)
    fail .expressionAsKeyword
  if isName then
    if ← skip? ":=" then
      let _ ← inner.expression hints
  if last ≠ .positional then
    if !hints then noMatch
    fail (.positionalBehind (last = .unpacked))
  return .positional

/-- Arguments behind one of a sort, with commas between them, and the closing parenthesis. -/
def arguments (inner : Inner) (hints : Bool) (last : Argument) : Nat → Reader Unit
  | 0 => noMatch
  | budget + 1 => do
    unless ← skip? ")" do
      let next ← argument inner hints last
      if ← skip? "," then arguments inner hints next budget else expect ")"

/-- A member of an expression, or a call of it. -/
def suffix (inner : Inner) (hints : Bool) (e : Expression) : Reader Expression := do
  if ← skip? "." then
    match ← peek with
    | .name text =>
      if reservedWords.contains text then noMatch
      advance
      return .withoutValue .member
    | _ => noMatch
  expect "("
  if ← skip? ")" then
    return ⟨.call, if e.form = .name "set" then .ok (.container (some "set")) else .error .malformed⟩
  arguments inner hints .positional (← budget)
  return .withoutValue .call

/-! ### Operators -/

/-- An operand with its members and calls, behind its signs and before its power. -/
def factor (inner : Inner) (hints : Bool) : Nat → Reader Expression
  | 0 => noMatch
  | budget + 1 => do
    if let some sign ← skipAny? ["+", "-", "~"] then
      let e ← factor inner hints budget
      return if sign = "~" then .withoutValue .operation else e.withSign
    let e ← extend (fun e => optional (suffix inner hints e)) (← operand (enclosed inner hints)) budget
    if hints then hintsInSet inner
    let power ← optional do
      expect "**"
      factor inner hints budget
    return if power.isSome then .withoutValue .operation else e

/-- The operators of numbers. -/
def numberOperators : List String :=
  ["|", "^", "&", "<<", ">>", "+", "-", "*", "/", "//", "%", "@"]

/-- Factors between operators of numbers. -/
def sum (inner : Inner) (hints : Bool) : Reader Expression := do
  let part : Reader Expression := do factor inner hints (← budget)
  let step (e : Expression) : Reader Expression := do
    match ← skipAny? numberOperators with
    | none => noMatch
    | some operator =>
      let f ← part
      return if operator = "+" ∨ operator = "-" then e.plus f else .withoutValue .operation
  extend (fun e => optional (step e)) (← part) (← budget)

/-- Consumes an operator that compares, which must be next. -/
def comparator : Reader Unit := do
  if (← skipAny? ["==", "!=", "<=", "<", ">=", ">"]).isSome then return
  if ← skipWord? ["in"] then return
  if ← skipWord? ["is"] then
    let _ ← skipWord? ["not"]
  else
    expectWord "not"
    expectWord "in"

/-- Sums between operators that compare. -/
def comparison (inner : Inner) (hints : Bool) : Reader Expression := do
  let step : Reader Expression := do
    comparator
    let _ ← sum inner hints
    return .withoutValue .comparison
  extend (fun _ => optional step) (← sum inner hints) (← budget)

/-- A comparison behind any number of negations. -/
def negation (inner : Inner) (hints : Bool) : Nat → Reader Expression
  | 0 => noMatch
  | budget + 1 => do
    if ← skipWord? ["not"] then
      let _ ← negation inner hints budget
      return .withoutValue .logical
    comparison inner hints

/-- Negations between `and` and `or`. -/
def disjunction (inner : Inner) (hints : Bool) : Reader Expression := do
  let part : Reader Expression := do negation inner hints (← budget)
  let step : Reader Expression := do
    unless ← skipWord? ["and", "or"] do noMatch
    let _ ← part
    return .withoutValue .logical
  extend (fun _ => optional step) (← part) (← budget)

/-! ### Expressions -/

/-- Names of old statements. -/
def statementNames : List String :=
  ["print", "exec"]

/-- Words that are names in most places. -/
def softWords : List String :=
  ["_", "case", "match"]

/-- Whether the hint about a missing comma would mislead behind a place: behind a name that a text follows, and behind
some names. -/
def hidesComma (start : List Token) : Bool :=
  match nameAt? start, start with
  | some _, _ :: ⟨.text _ _ _, _⟩ :: _ => true
  | some name, _ => softWords.contains name
  | none, _ => false

/-- How many parentheses are open behind the last token before a place. -/
def depthBefore (start behind : List Token) : Nat :=
  ((start.take (start.length - behind.length)).getLast?.map (·.depth)).getD 0

/-- The hint about a comma that is missing behind an expression, if another one follows in the same parentheses. -/
def hintAtComma (e : Expression) (another : Reader Expression) : Reader Unit := do
  let start ← get
  let depth ← ahead do
    let _ ← another
    return depthBefore start (← get)
  if depth.any (· ≠ 0) && !statementNames.any (e.form = .name ·) then
    fail .missingComma

/-- The hint about the parentheses that are missing behind the name of an old statement, if items follow.  `item` is told
whether the item was read before without hints, as the first one may have been. -/
def hintAtStatement (name : String) (again : Bool) (item : Bool → Reader Expression) : Reader Unit := do
  if ← at? "(" then return
  let step : Reader Unit := do
    expect ","
    let _ ← item false
  let items ← ahead do
    let _ ← item again
    extend (fun _ => optional step) () (← budget)
  if items.isSome && statementNames.contains name then
    fail (.missingParentheses name)

/-- An expression: a disjunction, or two of them around a condition.  `again` tells that the first disjunction was read
before without hints. -/
def expression (inner : Inner) (hints again : Bool) : Nat → Reader Expression
  | 0 => noMatch
  | budget + 1 => do
    let start ← get
    let e ← disjunction inner (hints && !again)
    let behind ← get
    if ← skipWord? ["if"] then
      let other ← optional do
        let _ ← disjunction inner hints
        unless ← skipWord? ["else"] do
          if hints && !(← at? ":") then fail .missingElse else noMatch
        expression inner hints false budget
      if other.isSome then return .withoutValue .conditional
      set behind
      return e
    if hints then
      let tried := !hidesComma start
      if tried then hintAtComma e (expression inner false false budget)
      if let some name := nameAt? start then
        let isSingle := isSingleName start behind
        if isSingle || (statementNames ++ softWords).contains name then
          let item (again : Bool) : Reader Expression := do
            if ← skip? "*" then sum inner hints else expression inner hints again budget
          set start.tail
          hintAtStatement name (tried && isSingle) item
          set behind
    return e

/-- The readers of what stands in parentheses, which can hold others that many levels deep. -/
def level : Nat → Inner
  | 0 => ⟨fun _ => noMatch, fun _ => noMatch⟩
  | depth + 1 => ⟨sum (level depth), fun hints => do expression (level depth) hints false (← budget)⟩

/-- A line: an expression, or several with commas between them. -/
def line (hints : Bool) : Reader Expression := do
  let inner := level (maxDepth + 1)
  let first ← inner.expression hints
  let others ← if ← skip? "," then some <$> separated (inner.expression hints) (← budget) else pure none
  if (← peek) ≠ .stop then noMatch
  return match others with
    | none => first
    | some others => .tuple (first :: others)

/-- The fault among tokens that counts before all others. -/
def decisiveFault? (tokens : List Token) : Option SyntaxFault :=
  tokens.findSome? fun t =>
    match t.kind with
    | .fault fault true => some fault
    | _ => none

/-- Why tokens are no expression, at which a reader stopped. -/
def syntaxFault (tokens : List Token) (stop : Stop) : SyntaxFault :=
  match decisiveFault? tokens, stop with
  | some fault, _ => fault
  | none, .fault fault => fault
  | none, .noMatch =>
    match (line true).run tokens with
    | .error (.fault fault) => fault
    | _ => .plain

/-- Why a line stands for no constant, if it stands for none. -/
def fault? (text : List Char) : Option Fault :=
  let tokens := tokens [] text
  match (line false).run tokens with
  | .ok (e, _) =>
    match e.value with
    | .ok _ => none
    | .error fault => some (.noConstant fault)
  | .error stop => some (.notExpression (syntaxFault tokens stop))

end TableSchema.Literal
