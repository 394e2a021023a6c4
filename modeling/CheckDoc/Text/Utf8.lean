import CheckDoc.Text.Hex

/-!
# UTF-8

Decoding of octets, which stops at the first sequence that is no character, or puts a replacement
in the place of each. The first octet of a character says how many more it owes and between which
bounds the next one lies; an octet out of bounds ends the sequence before it, and the end of the
data ends it there.
-/

namespace CheckDoc.Text

/-- Why octets are not UTF-8. -/
inductive Utf8Cause where
  /-- An octet that starts no character. -/
  | start
  /-- An octet that does not continue the character begun. -/
  | continuation
  /-- The data ends inside a character. -/
  | truncated
  deriving DecidableEq

/-- The wording of a cause. -/
def Utf8Cause.message : Utf8Cause → String
  | .start => "invalid start byte"
  | .continuation => "invalid continuation byte"
  | .truncated => "unexpected end of data"

/-- A sequence of octets that is no character. -/
structure Utf8Fault where
  /-- Why it is none. -/
  cause : Utf8Cause
  /-- Where it starts, counted from zero. -/
  start : Nat
  /-- Where it ends. -/
  stop : Nat
  /-- Its first octet. -/
  octet : UInt8
  deriving DecidableEq

/-- The report of a fault: the octet, or the places where several stand, and the cause. -/
def Utf8Fault.message (f : Utf8Fault) : String :=
  let place :=
    if f.stop = f.start + 1 then
      "byte 0x" ++ String.ofList (hexDigits 2 f.octet.toNat) ++ " in position " ++ toString f.start
    else "bytes in position " ++ toString f.start ++ "-" ++ toString (f.stop - 1)
  "'utf-8' codec can't decode " ++ place ++ ": " ++ f.cause.message

/-- The octets that a first octet owes: their number, the bounds of the next one, and the bits that
the first one gives to the code point. -/
def utf8Lead (b : Nat) : Option (Nat × Nat × Nat × Nat) :=
  if b < 0x80 then some (0, 0x80, 0xBF, b)
  else if b < 0xC2 then none
  else if b < 0xE0 then some (1, 0x80, 0xBF, b - 0xC0)
  else if b = 0xE0 then some (2, 0xA0, 0xBF, 0)
  else if b = 0xED then some (2, 0x80, 0x9F, 0xD)
  else if b < 0xF0 then some (2, 0x80, 0xBF, b - 0xE0)
  else if b = 0xF0 then some (3, 0x90, 0xBF, 0)
  else if b < 0xF4 then some (3, 0x80, 0xBF, b - 0xF0)
  else if b = 0xF4 then some (3, 0x80, 0x8F, 4)
  else none

/-- Where decoding stands inside a character. -/
structure Utf8Pending where
  /-- The octets still owed. -/
  owed : Nat
  /-- The least octet that may come next. -/
  low : Nat
  /-- The greatest octet that may come next. -/
  high : Nat
  /-- The code point of the octets so far. -/
  code : Nat
  /-- Where the character starts. -/
  start : Nat
  /-- The first octet of the character. -/
  octet : UInt8

/-- Decodes octets from position `at_` on. -/
def decodeUtf8From (at_ : Nat) : Option Utf8Pending → List UInt8 → Except Utf8Fault (List Char)
  | none, [] => .ok []
  | some p, [] => .error ⟨.truncated, p.start, at_, p.octet⟩
  | none, b :: bs =>
    match utf8Lead b.toNat with
    | none => .error ⟨.start, at_, at_ + 1, b⟩
    | some (0, _, _, code) => (Char.ofNat code :: ·) <$> decodeUtf8From (at_ + 1) none bs
    | some (owed + 1, low, high, code) =>
      decodeUtf8From (at_ + 1) (some ⟨owed + 1, low, high, code, at_, b⟩) bs
  | some p, b :: bs =>
    if p.low ≤ b.toNat ∧ b.toNat ≤ p.high then
      let code := p.code * 64 + (b.toNat - 0x80)
      if p.owed ≤ 1 then (Char.ofNat code :: ·) <$> decodeUtf8From (at_ + 1) none bs
      else
        decodeUtf8From (at_ + 1) (some ⟨p.owed - 1, 0x80, 0xBF, code, p.start, p.octet⟩) bs
    else .error ⟨.continuation, p.start, at_, p.octet⟩

/-- What stands in the place of octets that are no character. -/
def replacement : Char := '\ufffd'

/-- The character that an octet is, or the one that it begins. -/
def utf8Begin (b : UInt8) : List Char × Option Utf8Pending :=
  match utf8Lead b.toNat with
  | none => ([replacement], none)
  | some (0, _, _, code) => ([Char.ofNat code], none)
  | some (owed + 1, low, high, code) => ([], some ⟨owed + 1, low, high, code, 0, b⟩)

/-- Decodes octets with a replacement for each sequence that is no character. -/
def decodeUtf8Anyway : Option Utf8Pending → List UInt8 → List Char
  | none, [] => []
  | some _, [] => [replacement]
  | none, b :: bs =>
    let (found, next) := utf8Begin b
    found ++ decodeUtf8Anyway next bs
  | some p, b :: bs =>
    if p.low ≤ b.toNat ∧ b.toNat ≤ p.high then
      let code := p.code * 64 + (b.toNat - 0x80)
      if p.owed ≤ 1 then Char.ofNat code :: decodeUtf8Anyway none bs
      else decodeUtf8Anyway (some { p with owed := p.owed - 1, low := 0x80, high := 0xBF, code }) bs
    else
      let (found, next) := utf8Begin b
      replacement :: found ++ decodeUtf8Anyway next bs

/-- The text of octets in UTF-8. -/
def decodeUtf8 (octets : List UInt8) : Except Utf8Fault String :=
  String.ofList <$> decodeUtf8From 0 none octets

end CheckDoc.Text
