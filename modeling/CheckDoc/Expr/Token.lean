import CheckDoc.Expr.Basic
import CheckDoc.Text.Letter
import CheckDoc.Text.Position
import CheckDoc.Text.Quoted

/-!
# Tokens of expressions

The kinds of tokens, and why a text is not an expression. A fault is its cause and a position; the
wording of each cause is in `SyntaxCause.message`.
-/

namespace CheckDoc

/-- The kinds of tokens. -/
inductive TokenKind where
  /-- The word `true`. -/
  | trueWord
  /-- The word `false`. -/
  | falseWord
  /-- The word `if`. -/
  | ifWord
  /-- The word `else`. -/
  | elseWord
  /-- An opening parenthesis. -/
  | leftParen
  /-- A closing parenthesis. -/
  | rightParen
  /-- An opening bracket. -/
  | leftBracket
  /-- A closing bracket. -/
  | rightBracket
  /-- An opening brace. -/
  | leftBrace
  /-- A closing brace. -/
  | rightBrace
  /-- A comma. -/
  | comma
  /-- A point. -/
  | dot
  /-- A comparison. -/
  | comparison (op : Comparator)
  /-- The conjunction `&&`. -/
  | and
  /-- The disjunction `||`. -/
  | or
  /-- The negation `!`. -/
  | not
  /-- A text between double quotes. -/
  | string
  /-- An integer. -/
  | integer
  /-- A number with a point. -/
  | float
  /-- A name. -/
  | identifier
  deriving DecidableEq

/-- The text of a kind whose tokens all have the same text. -/
def TokenKind.text? : TokenKind → Option String
  | .trueWord => some "true"
  | .falseWord => some "false"
  | .ifWord => some "if"
  | .elseWord => some "else"
  | .leftParen => some "("
  | .rightParen => some ")"
  | .leftBracket => some "["
  | .rightBracket => some "]"
  | .leftBrace => some "\x7b"
  | .rightBrace => some "\x7d"
  | .comma => some ","
  | .dot => some "."
  | .comparison op => some op.symbol
  | .and => some "&&"
  | .or => some "||"
  | .not => some "!"
  | .string | .integer | .float | .identifier => none

/-- How a kind is named in a message. -/
def TokenKind.description : TokenKind → String
  | .string => "a string"
  | .integer => "an integer"
  | .float => "a number"
  | .identifier => "an identifier"
  | k => Text.quoted (k.text?.getD "")

/-- A token with its place. -/
structure Token where
  /-- The kind. -/
  kind : TokenKind
  /-- The text of the token; for a string, what it stands for. -/
  value : String
  /-- Where the token starts. -/
  position : Position
  deriving DecidableEq

/-- The tokens of a text and the place where it ends. -/
structure TokenStream where
  /-- The tokens in order. -/
  tokens : List Token
  /-- The end of the text. -/
  stop : Position
  deriving DecidableEq

/-- Why a text is not an expression, a choice or a template. In `got`, `none` stands for the end of
the text. -/
inductive SyntaxCause where
  /-- A character that starts no token. -/
  | unknownOperator (c : Char)
  /-- A string without a closing quote. -/
  | unterminatedString
  /-- A backslash in a string before a character that it does not escape. -/
  | invalidEscape (c : Char)
  /-- A template segment without a closing brace. -/
  | unterminatedSegment
  /-- No token at all. -/
  | empty
  /-- A token that does not fit its place. -/
  | unexpected (got : String)
  /-- The text ends where an operand is due. -/
  | unexpectedEnd
  /-- Another token than the one due. -/
  | expected (kind : TokenKind) (got : Option String)
  /-- A closing parenthesis without an opening one. -/
  | strayParen
  /-- An opening parenthesis without a closing one. -/
  | openParen
  /-- An opening bracket without a closing one. -/
  | openBracket
  /-- A token in a list where a comma or the closing bracket is due. -/
  | listDelimiter (got : String)
  /-- A list item that is no literal. -/
  | listItem (got : Option String)
  /-- A list as an operand of an ordering comparison. -/
  | listOrder (op : Comparator)
  /-- A comparison of a comparison without parentheses. -/
  | chained (op : String)
  /-- A name that stands for itself. -/
  | bareIdentifier (name : String)
  /-- A reference into an unknown scope. -/
  | unknownScope (name : String)
  /-- A number too large to be read. -/
  | numberRange
  /-- The result of an arm that is no literal. -/
  | branchResult (got : Option String)
  deriving DecidableEq

/-- What a token or the end of the text is called in a message. -/
def SyntaxCause.gotText : Option String → String
  | none => "end of expression"
  | some s => Text.quoted s

/-- The wording of a cause. -/
def SyntaxCause.message : SyntaxCause → String
  | .unknownOperator c => "Unknown operator: " ++ Text.quoted (String.singleton c)
  | .unterminatedString => "Unterminated string literal"
  | .invalidEscape c => "Invalid escape sequence: '\\" ++ String.singleton c ++ "'"
  | .unterminatedSegment => "Unterminated interpolation: missing '\x7d'"
  | .empty => "Empty expression"
  | .unexpected got => "Unexpected token " ++ Text.quoted got
  | .unexpectedEnd => "Unexpected end of expression"
  | .expected kind got => "Expected " ++ kind.description ++ ", got " ++ gotText got
  | .strayParen => "Unbalanced ')'"
  | .openParen => "Unbalanced '(': missing ')'"
  | .openBracket => "Unbalanced '[': missing ']'"
  | .listDelimiter got => "Expected ',' or ']', got " ++ Text.quoted got
  | .listItem got => "List items must be literals, got " ++ gotText got
  | .listOrder op => "List literal cannot be compared with " ++ Text.quoted op.symbol
  | .chained op => "Comparison " ++ Text.quoted op ++ " cannot be chained; use parentheses"
  | .bareIdentifier name =>
    "Bare identifier " ++ Text.quoted name ++
      "; expected facts.<name>, values.<name> or env.<name>"
  | .unknownScope name => "Unknown namespace " ++ Text.quoted name
  | .numberRange => "Number out of range"
  | .branchResult got => "Branch result must be a literal, got " ++ gotText got

/-- Whether a cause lies in the characters of a token and not in the order of the tokens. -/
def SyntaxCause.isLexical : SyntaxCause → Bool
  | .unknownOperator _ | .unterminatedString | .invalidEscape _ => true
  | _ => false

/-- A fault in a text. -/
structure SyntaxFault where
  /-- What is wrong. -/
  cause : SyntaxCause
  /-- Where. -/
  position : Position
  deriving DecidableEq

/-- The report of a fault: its cause and its place. -/
def SyntaxFault.message (f : SyntaxFault) : String :=
  f.cause.message ++ " (line " ++ toString f.position.line ++ ", position " ++
    toString f.position.column ++ ")"

end CheckDoc
