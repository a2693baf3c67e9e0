import TableSchema.Text.Blank

/-!
# Numerals

Decimal digits, of ASCII or of all scripts, and the integers that texts of such digits stand for.
-/

namespace TableSchema.Text

/-- The code points of the digit zero in all scripts.  The other digits follow each of them. -/
def zeros : List Nat := [
  0x30, 0x660, 0x6f0, 0x7c0, 0x966, 0x9e6, 0xa66, 0xae6, 0xb66, 0xbe6, 0xc66, 0xce6, 0xd66, 0xde6, 0xe50, 0xed0,
  0xf20, 0x1040, 0x1090, 0x17e0, 0x1810, 0x1946, 0x19d0, 0x1a80, 0x1a90, 0x1b50, 0x1bb0, 0x1c40, 0x1c50, 0xa620,
  0xa8d0, 0xa900, 0xa9d0, 0xa9f0, 0xaa50, 0xabf0, 0xff10, 0x104a0, 0x10d30, 0x11066, 0x110f0, 0x11136, 0x111d0,
  0x112f0, 0x11450, 0x114d0, 0x11650, 0x116c0, 0x11730, 0x118e0, 0x11950, 0x11c50, 0x11d50, 0x11da0, 0x16a60,
  0x16ac0, 0x16b50, 0x1d7ce, 0x1d7d8, 0x1d7e2, 0x1d7ec, 0x1d7f6, 0x1e140, 0x1e2f0, 0x1e950, 0x1fbf0]

/-- The value of a decimal digit of any script. -/
def digitValue? (c : Char) : Option Nat :=
  (zeros.find? fun first => first ≤ c.toNat ∧ c.toNat < first + 10).map (c.toNat - ·)

/-- The value of an ASCII digit. -/
def asciiDigit? (c : Char) : Option Nat :=
  if c.isDigit then some (c.toNat - '0'.toNat) else none

/-- The number that digits stand for, with single underscores between some of them. -/
def readDigits (digit? : Char → Option Nat) (text : List Char) : Option Nat :=
  go 0 text
where
  /-- Reads a digit and what follows it. -/
  go (value : Nat) : List Char → Option Nat
    | [] => none
    | [c] => (value * 10 + ·) <$> digit? c
    | c :: '_' :: rest => do go (value * 10 + (← digit? c)) rest
    | c :: rest => do go (value * 10 + (← digit? c)) rest

/-- Drops a fraction that holds zeros and nothing else. -/
def dropZeroFraction (text : List Char) : List Char :=
  let fraction := (text.dropWhile (· ≠ '.')).drop 1
  if fraction ≠ [] ∧ fraction.all (· = '0') then text.takeWhile (· ≠ '.') else text

/-- Drops zeros, and underscores among them, in front of a number that starts with a zero.  One stays if no other digit
follows. -/
def dropLeadingZeros (text : List Char) : List Char :=
  match text with
  | '0' :: rest =>
    let behind := rest.dropWhile fun c => c = '0' || c = '_'
    if behind.head?.any Char.isDigit then behind else text.drop (rest.length - behind.length)
  | _ => text

/-- The number behind a minus sign.  An underscore may come first, and a zero must not. -/
def readNegated? (text : List Char) : Option Nat :=
  let digits := if text.head? = some '_' then text.tail else text
  if digits.head? = some '0' ∧ digits ≠ ['0'] then none else readDigits asciiDigit? digits

/-- The integer that a text stands for, in ASCII digits with single underscores between some of them.  White space
around it, a plus sign, leading zeros and a fraction of zeros make no difference. -/
def readInteger? (text : List Char) : Option Int :=
  let readNatural (text : List Char) : Option Nat := readDigits asciiDigit? (dropZeroFraction (dropLeadingZeros text))
  match trim isWhiteSpace text with
  | '+' :: digits => Int.ofNat <$> readNatural digits
  | '-' :: digits => (fun n => -Int.ofNat n) <$> readNegated? (dropZeroFraction digits)
  | digits => Int.ofNat <$> readNatural digits

/-- The digits of an integer, behind the minus sign if there is one. -/
def digitsOf (text : String) : List Char :=
  if text.toList.head? = some '-' then text.toList.tail else text.toList

/-- The number of digits of an integer. -/
def digitCount (text : String) : Nat :=
  (digitsOf text).length

/-- The integer that ASCII digits stand for, with or without a minus sign in front. -/
def integerOf (text : String) : Int :=
  let value : Nat := (digitsOf text).foldl (fun n c => n * 10 + (c.toNat - '0'.toNat)) 0
  if text.toList.head? = some '-' then -value else value

/-! ### Long integers -/

/-- The most digits that an integer may have. -/
def maxDigits : Nat := 4300

/-- Whether an integer has too many digits. -/
def isTooLong (n : Int) : Bool :=
  Nat.pow 10 maxDigits ≤ n.natAbs

/-- The message about an integer with too many digits. -/
def integerTooLongMessage (count : Nat) : String :=
  s!"Exceeds the limit ({maxDigits} digits) for integer string conversion: value has {count} digits; "
    ++ "use sys.set_int_max_str_digits() to increase the limit"

end TableSchema.Text
