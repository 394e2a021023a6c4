import CheckDoc.Expr.Token

/-!
# Cutting a text into tokens

`Lexeme.first` reads the token at the start of a text that begins with no blank, and `tokenize`
repeats it over the text less the blanks between. Symbols of two characters are tried before those
of one. A minus belongs to a number only in front of a digit, and a point only between two digits.
-/

namespace CheckDoc

/-- The characters between tokens. -/
def isBlank (c : Char) : Bool := c = ' ' || c = '\t' || c = '\r' || c = '\n'

/-- A token as it stands in a text. -/
structure Lexeme where
  /-- The kind. -/
  kind : TokenKind
  /-- The characters of the token in the text. -/
  text : List Char
  /-- What the token stands for: the characters, or the content of a string. -/
  value : List Char

namespace Lexeme

/-- The kinds with a text of their own that is not a word, longer texts first. -/
def symbols : List TokenKind :=
  [.comparison .eq, .comparison .ne, .comparison .le, .comparison .ge, .and, .or,
   .comparison .lt, .comparison .gt, .not,
   .leftParen, .rightParen, .leftBracket, .rightBracket, .leftBrace, .rightBrace, .comma, .dot]

/-- The characters of a symbol. -/
def symbolText (k : TokenKind) : List Char := (k.text?.getD "").toList

/-- The symbol at the start of a text. -/
def symbol? (s : List Char) : Option Lexeme :=
  (symbols.find? fun k => (symbolText k).isPrefixOf s).map fun k =>
    ⟨k, symbolText k, symbolText k⟩

/-- Why the body of a string cannot be read. -/
inductive StringFault where
  /-- The line or the text ends before the closing quote. -/
  | unterminated
  /-- After the characters `before`, which end with a backslash, stands `c`. -/
  | escape (before : List Char) (c : Char)

/-- The body of a string up to its closing quote. -/
structure StringBody where
  /-- The characters in the text, with the closing quote. -/
  text : List Char
  /-- What they stand for. -/
  value : List Char

/-- A body after one more character that is written as `raw`. -/
def StringBody.cons (raw : List Char) (c : Char) :
    Except StringFault StringBody → Except StringFault StringBody
  | .ok b => .ok ⟨raw ++ b.text, c :: b.value⟩
  | .error .unterminated => .error .unterminated
  | .error (.escape before e) => .error (.escape (raw ++ before) e)

/-- The character that a letter after a backslash stands for. -/
def unescape? (c : Char) : Option Char :=
  if c = 'n' then some '\n'
  else if c = 't' then some '\t'
  else if c = '\\' then some '\\'
  else if c = '"' then some '"'
  else none

/-- Reads the body of a string, whose opening quote is read already. -/
def stringBody : List Char → Except StringFault StringBody
  | [] => .error .unterminated
  | [c] => if c = '"' then .ok ⟨['"'], []⟩ else .error .unterminated
  | c :: d :: cs =>
    if c = '"' then .ok ⟨['"'], []⟩
    else if c = '\n' then .error .unterminated
    else if c = '\\' then
      match unescape? d with
      | some x => StringBody.cons ['\\', d] x (stringBody cs)
      | none => .error (.escape ['\\'] d)
    else StringBody.cons [c] c (stringBody (d :: cs))

/-- The digits at the start of a text, and a point with the digits after it. -/
def number (s : List Char) : TokenKind × List Char :=
  let whole := s.takeWhile Char.isDigit
  match s.dropWhile Char.isDigit with
  | '.' :: d :: rest =>
    if d.isDigit then (.float, whole ++ '.' :: (d :: rest).takeWhile Char.isDigit)
    else (.integer, whole)
  | _ => (.integer, whole)

/-- Whether a name can start with a character. -/
def startsName (c : Char) : Bool := Text.isLetter c || c = '_'

/-- Whether a name can go on with a character. -/
def continuesName (c : Char) : Bool := Text.isAlphanumeric c || c = '_'

/-- The kind of a word. -/
def wordKind (w : List Char) : TokenKind :=
  if w = ['t', 'r', 'u', 'e'] then .trueWord
  else if w = ['f', 'a', 'l', 's', 'e'] then .falseWord
  else if w = ['i', 'f'] then .ifWord
  else if w = ['e', 'l', 's', 'e'] then .elseWord
  else .identifier

/-- The token at the start of the text `c :: cs`, which begins with no blank; `here` is its
place. -/
def first (here : Position) (c : Char) (cs : List Char) : Except SyntaxFault Lexeme :=
  match symbol? (c :: cs) with
  | some l => .ok l
  | none =>
    if c = '"' then
      match stringBody cs with
      | .ok b => .ok ⟨.string, '"' :: b.text, b.value⟩
      | .error .unterminated => .error ⟨.unterminatedString, here⟩
      | .error (.escape before e) => .error ⟨.invalidEscape e, here.after ('"' :: before)⟩
    else if c.isDigit then
      let (kind, text) := number (c :: cs)
      .ok ⟨kind, text, text⟩
    else if c = '-' ∧ cs.head?.any Char.isDigit then
      let (kind, text) := number cs
      .ok ⟨kind, '-' :: text, '-' :: text⟩
    else if startsName c then
      let word := c :: cs.takeWhile continuesName
      .ok ⟨wordKind word, word, word⟩
    else .error ⟨.unknownOperator c, here⟩

end Lexeme

/-- The tokens of a text that begins at `p`. -/
def TokenStream.scan (p : Position) (s : List Char) : Except SyntaxFault TokenStream :=
  let here := p.after (s.takeWhile isBlank)
  match hs : s.dropWhile isBlank with
  | [] => .ok ⟨[], here⟩
  | c :: cs => do
    let l ← Lexeme.first here c cs
    let more ← scan (here.after l.text) (cs.drop (l.text.length - 1))
    pure ⟨⟨l.kind, String.ofList l.value, here⟩ :: more.tokens, more.stop⟩
termination_by s.length
decreasing_by
  have hle : (s.dropWhile isBlank).length ≤ s.length := (List.dropWhile_sublist _).length_le
  rw [hs] at hle
  simp only [List.length_drop, List.length_cons] at hle ⊢
  omega

/-- The tokens of a text. -/
def tokenize (source : String) : Except SyntaxFault TokenStream :=
  TokenStream.scan .start source.toList

end CheckDoc
