import CheckDoc.Text.Quoted

/-!
# Encodings

An encoding has octets for some characters and none for others. The first run of those that it has
none for is the fault of a text there.
-/

namespace CheckDoc.Text

/-- Whether a character is ASCII. -/
def isAscii (c : Char) : Bool := c.toNat < 128

/-- An encoding of texts. -/
structure Encoding where
  /-- Its name. -/
  name : String
  /-- Whether it has octets for a character. -/
  covers : Char → Bool
  /-- What is said of a character that it has none for. -/
  refusal : String

/-- A run of characters that an encoding has no octets for. -/
structure EncodingFault where
  /-- The name of the encoding. -/
  encoding : String
  /-- Where the run starts, counted from zero. -/
  start : Nat
  /-- Where it ends. -/
  stop : Nat
  /-- Its first code point. -/
  code : Nat
  /-- What is said of it. -/
  refusal : String
  deriving DecidableEq

/-- The report of a fault: the character, or the places where several stand. -/
def EncodingFault.message (f : EncodingFault) : String :=
  let place :=
    if f.stop = f.start + 1 then
      "character '\\" ++ String.ofList (codeDigits f.code) ++ "' in position " ++ toString f.start
    else "characters in position " ++ toString f.start ++ "-" ++ toString (f.stop - 1)
  "'" ++ f.encoding ++ "' codec can't encode " ++ place ++ ": " ++ f.refusal

namespace Encoding

/-- The first run of characters of a text that an encoding has no octets for. -/
def fault? (e : Encoding) (s : List Char) : Option EncodingFault :=
  let start := (s.takeWhile e.covers).length
  match s.dropWhile e.covers with
  | [] => none
  | c :: cs =>
    some ⟨e.name, start, start + 1 + (cs.takeWhile fun x => !e.covers x).length, codeOf c,
      e.refusal⟩

/-- ASCII. -/
def ascii : Encoding := ⟨"ascii", isAscii, "ordinal not in range(128)"⟩

/-- UTF-8, which has no octets for halves of pairs. -/
def utf8 : Encoding := ⟨"utf-8", fun c => !isHalf (codeOf c), "surrogates not allowed"⟩

end Encoding

end CheckDoc.Text
