import TableSchema.Literal.Fault

/-!
# Expressions

An expression is known by its form and its value.  It has a value if it stands for a constant; keys of dictionaries and
items of sets must be of some types only.
-/

namespace TableSchema.Literal

/-- What an expression stands for, as far as more can be built from it.  A container that is no key knows the type on
account of which it is none. -/
inductive Value
  | number (imaginary : Bool)
  | signed (imaginary : Bool)
  | constant
  | container (noKey : Option String)
deriving DecidableEq

/-- An expression: its form, and its value or why it has none. -/
structure Expression where
  form : Form
  value : Except ValueFault Value

/-- An expression without a value. -/
def Expression.withoutValue (form : Form) : Expression :=
  ⟨form, .error .malformed⟩

/-- The type of an expression's value, if that is no key. -/
def Value.noKey? : Value → Option String
  | container noKey => noKey
  | _ => none

/-- A number with a sign. -/
def Expression.withSign (e : Expression) : Expression where
  form := .operation
  value := match e.value with
    | .ok (.number imaginary) => .ok (.signed imaginary)
    | _ => .error .malformed

/-- The sum or the difference of a number and an imaginary one. -/
def Expression.plus (e f : Expression) : Expression where
  form := .operation
  value := match e.value, f.value with
    | .ok (.number false), .ok (.number true) => .ok .constant
    | .ok (.signed false), .ok (.number true) => .ok .constant
    | _, _ => .error .malformed

/-- The values of items, up to one that has none. -/
def valuesOf (items : List Expression) : Except ValueFault (List Value) :=
  items.mapM (·.value)

/-- A tuple.  It is no key if one of its items is none. -/
def Expression.tuple (items : List Expression) : Expression where
  form := .tuple
  value := (fun values => .container (values.findSome? (·.noKey?))) <$> valuesOf items

/-- Makes sure that a value is a key. -/
def requireKey (v : Value) : Except ValueFault Unit :=
  match v.noKey? with
  | none => .ok ()
  | some type => .error (.noKey type)

/-- A set.  Its items must be keys. -/
def Expression.set (items : List Expression) : Expression where
  form := .set
  value := do
    for item in items do
      requireKey (← item.value)
    return .container (some "set")

/-- A dictionary of keys and values, or of others that it takes up. -/
def Expression.dictionary (entries : List (Option Expression × Expression)) : Expression where
  form := .dictionary
  value := do
    for (key, value) in entries do
      match key with
      | none => .error .malformedKey
      | some key =>
        let k ← key.value
        let _ ← value.value
        requireKey k
    return .container (some "dict")

end TableSchema.Literal
