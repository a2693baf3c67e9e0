import TableSchema.Text.CodePoint

/-!
# UTF-8

`encodeUtf8` writes characters as bytes, `decodeUtf8` reads them back and says where and why bytes are no UTF-8.
A lead byte fixes how many continuation bytes follow and, for the first of them, a range that keeps out overlong
forms, surrogates and code points above U+10FFFF.
-/

namespace TableSchema.Text

/-- The bytes of one character. -/
def utf8Bytes (c : Char) : List UInt8 :=
  let n := c.toNat
  let last (k : Nat) : UInt8 := .ofNat (0x80 + k % 64)
  if n < 0x80 then [.ofNat n]
  else if n < 0x800 then [.ofNat (0xc0 + n / 64), last n]
  else if n < 0x10000 then [.ofNat (0xe0 + n / 4096), last (n / 64), last n]
  else [.ofNat (0xf0 + n / 262144), last (n / 4096), last (n / 64), last n]

/-- The bytes of a text. -/
def encodeUtf8 (text : List Char) : List UInt8 :=
  text.flatMap utf8Bytes

/-- What a lead byte announces: the number of continuation bytes, the range of the first of them, and its own part
of the code point. -/
structure Utf8Lead where
  continuations : Nat
  low : UInt8
  high : UInt8
  bits : Nat

/-- What a byte announces as a lead byte, if it can be one. -/
def utf8Lead? (byte : UInt8) : Option Utf8Lead :=
  if byte < 0x80 then some ⟨0, 0x80, 0xbf, byte.toNat⟩
  else if byte < 0xc2 then none
  else if byte < 0xe0 then some ⟨1, 0x80, 0xbf, byte.toNat - 0xc0⟩
  else if byte < 0xf0 then
    some ⟨2, if byte = 0xe0 then 0xa0 else 0x80, if byte = 0xed then 0x9f else 0xbf, byte.toNat - 0xe0⟩
  else if byte < 0xf5 then
    some ⟨3, if byte = 0xf0 then 0x90 else 0x80, if byte = 0xf4 then 0x8f else 0xbf, byte.toNat - 0xf0⟩
  else none

/-- Why bytes are no UTF-8. -/
inductive Utf8Fault
  | invalidStart
  | invalidContinuation
  | unexpectedEnd
deriving DecidableEq

/-- The wording of a fault. -/
def Utf8Fault.reason : Utf8Fault → String
  | invalidStart => "invalid start byte"
  | invalidContinuation => "invalid continuation byte"
  | unexpectedEnd => "unexpected end of data"

/-- Bytes that are no UTF-8: the position of the first one, that byte, and how many more belong to the fault. -/
structure Utf8Error where
  position : Nat
  byte : UInt8
  more : Nat
  fault : Utf8Fault
deriving DecidableEq

/-- The wording of an error names the byte if it is one, and the first and last position otherwise. -/
def Utf8Error.message (e : Utf8Error) : String :=
  let subject :=
    if e.more = 0 then "byte 0x" ++ hexDigits 2 e.byte.toNat ++ s!" in position {e.position}"
    else s!"bytes in position {e.position}-{e.position + e.more}"
  "'utf-8' codec can't decode " ++ subject ++ ": " ++ e.fault.reason

/-- Reads `lead.continuations` continuation bytes.  Gives the code point, or the number of good continuation bytes
before a fault. -/
def Utf8Lead.complete (lead : Utf8Lead) (rest : List UInt8) : Except (Nat × Utf8Fault) Nat :=
  go lead.continuations lead.low lead.high lead.bits 0 rest
where
  go : Nat → UInt8 → UInt8 → Nat → Nat → List UInt8 → Except (Nat × Utf8Fault) Nat
    | 0, _, _, bits, _, _ => .ok bits
    | _ + 1, _, _, _, good, [] => .error (good, .unexpectedEnd)
    | left + 1, low, high, bits, good, byte :: rest =>
      if low ≤ byte ∧ byte ≤ high then go left 0x80 0xbf (bits * 64 + (byte.toNat - 0x80)) (good + 1) rest
      else .error (good, .invalidContinuation)

/-- Reads bytes that begin at a position as UTF-8. -/
def decodeUtf8At (position : Nat) : List UInt8 → Except Utf8Error (List Char)
  | [] => .ok []
  | byte :: rest =>
    match utf8Lead? byte with
    | none => .error ⟨position, byte, 0, .invalidStart⟩
    | some lead =>
      match lead.complete rest with
      | .error (good, fault) => .error ⟨position, byte, good, fault⟩
      | .ok code =>
        (Char.ofNat code :: ·) <$> decodeUtf8At (position + 1 + lead.continuations) (rest.drop lead.continuations)
termination_by bytes => bytes.length
decreasing_by simp only [List.length_cons, List.length_drop]; omega

/-- Reads bytes as UTF-8. -/
def decodeUtf8 (bytes : List UInt8) : Except Utf8Error (List Char) :=
  decodeUtf8At 0 bytes

end TableSchema.Text
