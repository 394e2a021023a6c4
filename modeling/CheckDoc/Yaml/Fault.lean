import CheckDoc.Numeric.Reading
import CheckDoc.Text.Quoted
import CheckDoc.Text.Utf8
import CheckDoc.Yaml.Mark

/-!
# Faults in a YAML text

A fault is a problem at a place, and often what was being read and where that began. The report of
a fault gives all four, one after the other; where the reading began at the very place of the
problem, its place is left out.
-/

namespace CheckDoc.Yaml

/-- What was being read. -/
inductive Activity where
  /-- Looking for the next token. -/
  | nextToken
  /-- A mapping key on one line. -/
  | simpleKey
  /-- A directive. -/
  | directive
  /-- An alias. -/
  | alias
  /-- An anchor. -/
  | anchor
  /-- A tag, its characters. -/
  | tag
  /-- A tag, its parts. -/
  | tagParts
  /-- The address in a directive. -/
  | directiveParts
  /-- A block scalar. -/
  | blockScalar
  /-- A scalar in quotes. -/
  | quotedScalar
  /-- A scalar in double quotes. -/
  | doubleQuoted
  /-- A node with properties. -/
  | node
  /-- A node in block style. -/
  | blockNode
  /-- A node in flow style. -/
  | flowNode
  /-- A sequence in block style. -/
  | blockSequence
  /-- A mapping in block style. -/
  | blockMapping
  /-- A sequence in flow style. -/
  | flowSequence
  /-- A mapping in flow style. -/
  | flowMapping
  /-- The single document of a text. -/
  | document
  /-- The node that first had the given anchor. -/
  | anchored (name : String)
  /-- Building a mapping. -/
  | mapping
  /-- Building an ordered map. -/
  | orderedMap
  /-- Building a list of pairs. -/
  | pairs

/-- The wording of an activity. -/
def Activity.message : Activity → String
  | .nextToken => "while scanning for the next token"
  | .simpleKey => "while scanning a simple key"
  | .directive => "while scanning a directive"
  | .alias => "while scanning an alias"
  | .anchor => "while scanning an anchor"
  | .tag => "while scanning a tag"
  | .tagParts => "while parsing a tag"
  | .directiveParts => "while parsing a directive"
  | .blockScalar => "while scanning a block scalar"
  | .quotedScalar => "while scanning a quoted scalar"
  | .doubleQuoted => "while scanning a double-quoted scalar"
  | .node => "while parsing a node"
  | .blockNode => "while parsing a block node"
  | .flowNode => "while parsing a flow node"
  | .blockSequence => "while parsing a block collection"
  | .blockMapping => "while parsing a block mapping"
  | .flowSequence => "while parsing a flow sequence"
  | .flowMapping => "while parsing a flow mapping"
  | .document => "expected a single document in the stream"
  | .anchored name => "found duplicate anchor " ++ Text.quoted name ++ "; first occurrence"
  | .mapping => "while constructing a mapping"
  | .orderedMap => "while constructing an ordered map"
  | .pairs => "while constructing pairs"

/-- Why a number is out of range. -/
inductive NumberFault where
  /-- It lies past the last code point. -/
  | past
  /-- As a code point it does not fit into 31 bits. -/
  | wide
  /-- It has too many digits. -/
  | long (digits : Nat)
  deriving DecidableEq

/-- The wording of such a fault. -/
def NumberFault.message : NumberFault → String
  | .past => "chr() arg not in range(0x110000)"
  | .wide => "Python int too large to convert to C int"
  | .long digits => Numeric.lengthMessage (some digits)

/-- What is wrong with a number as a code point. -/
def NumberFault.ofCode? (n : Nat) : Option NumberFault :=
  if n < 0x110000 then none else if n < 0x80000000 then some .past else some .wide

/-- What is wrong with the number of a version. -/
def NumberFault.ofVersion? (digits : List Char) : Option NumberFault :=
  if Numeric.maxDigits < digits.length then some (.long digits.length) else none

/-- What is wrong. A character is the one that was found, NUL at the end of the text; a token is
named by its sign. -/
inductive Problem where
  /-- A character that starts no token. -/
  | noToken (c : Char)
  /-- A key without its colon. -/
  | missingColon
  /-- A sequence entry where none may start. -/
  | entryNotAllowed
  /-- An explicit key where none may start. -/
  | keyNotAllowed
  /-- A colon where no value may start. -/
  | valueNotAllowed
  /-- No letter or digit where a name is due. -/
  | nameCharacter (c : Char)
  /-- No digit or point in a version. -/
  | versionPoint (c : Char)
  /-- No blank after a version. -/
  | versionEnd (c : Char)
  /-- No digit where a version is due. -/
  | versionDigit (c : Char)
  /-- No blank where one is due. -/
  | blankDue (c : Char)
  /-- Neither a comment nor a line end where one is due. -/
  | lineEndDue (c : Char)
  /-- No closing angle bracket after a verbatim tag. -/
  | verbatimEnd (c : Char)
  /-- No exclamation mark where a handle is due. -/
  | handleMark (c : Char)
  /-- No address where one is due. -/
  | addressDue (c : Char)
  /-- No hexadecimal digit in an escape of an address. -/
  | addressEscape (c : Char)
  /-- The octets of an address are not UTF-8. -/
  | addressOctets (reason : String)
  /-- The indentation indicator zero. -/
  | zeroIndicator
  /-- Neither a chomping nor an indentation indicator. -/
  | indicatorDue (c : Char)
  /-- No hexadecimal digit in an escape of that many. -/
  | escapeDigits (count : Nat) (c : Char)
  /-- A character that a backslash does not escape. -/
  | unknownEscape (c : Char)
  /-- A number that is out of range. -/
  | number (f : NumberFault)
  /-- The text ends inside quotes. -/
  | openQuote
  /-- A document marker inside quotes. -/
  | markerInQuotes
  /-- No document start where one is due. -/
  | documentStartDue (token : String)
  /-- Two version directives. -/
  | secondVersion
  /-- A version other than 1. -/
  | otherVersion
  /-- A tag handle declared twice. -/
  | secondHandle (handle : String)
  /-- A tag handle that is not declared. -/
  | unknownHandle (handle : String)
  /-- No content where a node is due. -/
  | contentDue (token : String)
  /-- A token inside a block collection. -/
  | blockEndDue (token : String)
  /-- A token between the entries of a flow sequence. -/
  | sequenceDelimiter (token : String)
  /-- A token between the entries of a flow mapping. -/
  | mappingDelimiter (token : String)
  /-- A second document. -/
  | secondDocument
  /-- An alias without its anchor. -/
  | unknownAlias (name : String)
  /-- The second node with an anchor. -/
  | secondAnchor
  /-- A tag that nothing can be built for. -/
  | unknownTag (tag : String)
  /-- A node of another kind than its tag asks for. -/
  | otherKind (due found : String)
  /-- A key that is a collection. -/
  | unhashableKey
  /-- A merge of something that is no mapping. -/
  | mergeKind (due found : String)
  /-- An entry of pairs with more or fewer items than one. -/
  | pairCount (count : Nat)
  /-- Encoded data that cannot be decoded. -/
  | encodedData (reason : String)

/-- The wording of a problem. -/
def Problem.message : Problem → String
  | .noToken c => "found character " ++ quote c ++ " that cannot start any token"
  | .missingColon => "could not find expected ':'"
  | .entryNotAllowed => "sequence entries are not allowed here"
  | .keyNotAllowed => "mapping keys are not allowed here"
  | .valueNotAllowed => "mapping values are not allowed here"
  | .nameCharacter c => "expected alphabetic or numeric character, but found " ++ quote c
  | .versionPoint c => "expected a digit or '.', but found " ++ quote c
  | .versionEnd c => "expected a digit or ' ', but found " ++ quote c
  | .versionDigit c => "expected a digit, but found " ++ quote c
  | .blankDue c => "expected ' ', but found " ++ quote c
  | .lineEndDue c => "expected a comment or a line break, but found " ++ quote c
  | .verbatimEnd c => "expected '>', but found " ++ quote c
  | .handleMark c => "expected '!', but found " ++ quote c
  | .addressDue c => "expected URI, but found " ++ quote c
  | .addressEscape c =>
    "expected URI escape sequence of 2 hexadecimal numbers, but found " ++ quote c
  | .addressOctets reason => reason
  | .zeroIndicator => "expected indentation indicator in the range 1-9, but found 0"
  | .indicatorDue c => "expected chomping or indentation indicators, but found " ++ quote c
  | .escapeDigits count c =>
    "expected escape sequence of " ++ toString count ++ " hexadecimal numbers, but found " ++
      quote c
  | .unknownEscape c => "found unknown escape character " ++ quote c
  | .number f => f.message
  | .openQuote => "found unexpected end of stream"
  | .markerInQuotes => "found unexpected document separator"
  | .documentStartDue token => "expected '<document start>', but found " ++ Text.quoted token
  | .secondVersion => "found duplicate YAML directive"
  | .otherVersion => "found incompatible YAML document (version 1.* is required)"
  | .secondHandle handle => "duplicate tag handle " ++ Text.quoted handle
  | .unknownHandle handle => "found undefined tag handle " ++ Text.quoted handle
  | .contentDue token => "expected the node content, but found " ++ Text.quoted token
  | .blockEndDue token => "expected <block end>, but found " ++ Text.quoted token
  | .sequenceDelimiter token => "expected ',' or ']', but got " ++ Text.quoted token
  | .mappingDelimiter token => "expected ',' or '\x7d', but got " ++ Text.quoted token
  | .secondDocument => "but found another document"
  | .unknownAlias name => "found undefined alias " ++ Text.quoted name
  | .secondAnchor => "second occurrence"
  | .unknownTag tag => "could not determine a constructor for the tag " ++ Text.quoted tag
  | .otherKind due found => "expected " ++ due ++ ", but found " ++ found
  | .unhashableKey => "found unhashable key"
  | .mergeKind due found => "expected " ++ due ++ " for merging, but found " ++ found
  | .pairCount count => "expected a single mapping item, but found " ++ toString count ++ " items"
  | .encodedData reason => reason
where
  /-- A character in quotes. -/
  quote (c : Char) : String := Text.quoted (String.singleton c)

/-- A problem with its place. -/
structure Fault where
  /-- What was being read, and where that began. -/
  during : Option (Activity × Mark)
  /-- What is wrong. -/
  problem : Problem
  /-- Where. -/
  mark : Mark

/-- The full report of a fault in `text`. -/
def Fault.report (f : Fault) (text : List Char) : String :=
  let begun := match f.during with
    | none => []
    | some (activity, m) =>
      if m.line = f.mark.line ∧ m.column = f.mark.column then [activity.message]
      else [activity.message, m.report text]
  "\n".intercalate (begun ++ [f.problem.message, f.mark.report text])

/-- Whether a character may stand in a YAML text. -/
def isAcceptable (c : Char) : Bool :=
  let n := c.toNat
  n = 9 || n = 10 || n = 13 || (32 ≤ n && n ≤ 126) || n = 0x85 || (0xA0 ≤ n && n ≤ 0xD7FF) ||
    (0xE000 ≤ n && n ≤ 0xFFFD) || 0x10000 ≤ n

/-- The first character of a text that may not stand in it, with its index. -/
def unacceptable? (text : List Char) : Option (Char × Nat) :=
  (text.find? fun c => !isAcceptable c).map fun c =>
    (c, (text.takeWhile isAcceptable).length)

/-- The report of an unacceptable character. -/
def unacceptableReport (c : Char) (index : Nat) : String :=
  "unacceptable character #x" ++ String.ofList (Text.hexDigits 4 c.toNat) ++
    ": special characters are not allowed\n  in \"<unicode string>\", position " ++ toString index

end CheckDoc.Yaml
