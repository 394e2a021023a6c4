import CheckDoc.Document.Basic
import CheckDoc.Numeric.Reading
import CheckDoc.Text.Blank

/-!
# The summary of a Check

A summary shows each section of a Check under a header. A header is padded to a fixed width, and it
may be painted, black on green. The paint ends before a line break and starts again after it, so
that it never runs to the edge of a terminal; and where control sequences in a header end it, it
starts again behind them. A Check with an integer that is too long to be written has no summary.
-/

namespace CheckDoc

/-- How headers look. -/
inductive Paint where
  /-- As plain text. -/
  | plain
  /-- In black on green. -/
  | highlighted
  deriving DecidableEq

/-- A colour, by the control sequences that start and end it. -/
structure Colouring where
  /-- What starts it. -/
  on : List Char
  /-- What ends it. -/
  off : List Char

/-- The colours of a highlighted header, of the letters and of the ground. -/
def highlight : List Colouring :=
  [⟨"\x1b[30m".toList, "\x1b[39m".toList⟩, ⟨"\x1b[42m".toList, "\x1b[49m".toList⟩]

/-- The control sequence that ends all colours. -/
def reset : List Char := "\x1b[0m".toList

/-- A text in which a colour starts again wherever it ends, after `skip` characters of it. -/
def Colouring.resumed (k : Colouring) (skip : Nat) : List Char → List Char
  | [] => []
  | c :: rest =>
    match skip with
    | n + 1 => k.resumed n rest
    | 0 =>
      if k.off.isPrefixOf (c :: rest) then k.off ++ k.on ++ k.resumed (k.off.length - 1) rest
      else c :: k.resumed 0 rest

/-- A text with `off` in front of each pair of resets on one line and `on` after it; `inside` is
what follows the first of a pair. -/
def aroundResets (on off : List Char) (inside : Option (List Char)) : List Char → List Char
  | [] => (inside.map (reset ++ ·)).getD []
  | '\x1b' :: '[' :: '0' :: 'm' :: rest =>
    match inside with
    | none => aroundResets on off (some []) rest
    | some p => off ++ reset ++ p ++ reset ++ on ++ aroundResets on off none rest
  | c :: rest =>
    match inside with
    | none => c :: aroundResets on off none rest
    | some p =>
      if c = '\n' then reset ++ p ++ c :: aroundResets on off none rest
      else aroundResets on off (some (p ++ [c])) rest

/-- A text with `off` in front of each line end and `on` after it. -/
def aroundLineEnds (on off : List Char) : List Char → List Char
  | [] => []
  | '\r' :: '\n' :: rest => off ++ '\r' :: '\n' :: on ++ aroundLineEnds on off rest
  | c :: rest =>
    if c = '\n' then off ++ c :: on ++ aroundLineEnds on off rest
    else c :: aroundLineEnds on off rest

/-- A text in a paint. -/
def Paint.apply (p : Paint) (text : List Char) : List Char :=
  match p with
  | .plain => text
  | .highlighted =>
    let on := highlight.flatMap (·.on)
    let off := highlight.flatMap (·.off)
    let text := highlight.foldl (fun t k => k.resumed 0 t) text
    on ++ aroundLineEnds on off (aroundResets on off none text) ++ off

/-- The width of a header. -/
def headerWidth : Nat := 16

/-- The header of a section. -/
def Paint.header (p : Paint) (title : String) : String :=
  let text := "  " ++ title ++ "  "
  String.ofList (p.apply (text.toList.rightpad headerWidth ' '))

/-- A text whose further lines are indented as the first one. -/
def indented (text : List Char) : List Char :=
  text.flatMap fun c => if c = '\n' then ['\n', ' ', ' '] else [c]

/-- A text without white space around it. -/
def stripped (text : String) : String := String.ofList (Text.strip text.toList)

/-- A paragraph without white space around it, and with its further lines indented. -/
def paragraph (text : String) : String := String.ofList (indented (Text.strip text.toList))

/-- The text of a constant in a summary. -/
def Scalar.shown : Scalar → String
  | .str s => s
  | .int n => toString n
  | .float x => x.text
  | .bool true => "True"
  | .bool false => "False"

/-- The text of a payload in a summary. -/
def Payload.shown : Payload → String
  | .scalar v => v.shown
  | .list items => "[" ++ ", ".intercalate (items.map Scalar.shown) ++ "]"

/-- The label of an expression field in a summary. -/
def ExprField.label : ExprField → String
  | .expect => "Expect"
  | .expectSame => "Expect same"
  | .expectEnum => "Expect enum"

/-- The label of a message field in a summary. -/
def MessageField.label : MessageField → String
  | .failure => "Failure message"
  | .warning => "Warning message"

namespace Summary

/-- An entry of a section. -/
def entry (p : Paint) (title text : String) : String := "  " ++ p.header title ++ "  " ++ text

/-- The head of a summary: what the Check is, what it is about and what to do. -/
def head (p : Paint) (c : Check) : List String :=
  [p.header c.id ++ "  " ++ c.name,
    p.header "Group" ++ "  " ++ c.group,
    p.header "Description" ++ "  " ++ paragraph c.description,
    "",
    p.header "Remediation",
    "  " ++ paragraph c.remediation]

/-- The section on the classification. -/
def metadata (p : Paint) (m : Metadata) : List String :=
  ["", p.header "Metadata"] ++ m.targetType.toList.map (entry p "Target type") ++
    if m.providers.isEmpty then [] else [entry p "Providers" (", ".intercalate m.providers)]

/-- The lines of a fact. -/
def fact (p : Paint) (f : Fact) : List String :=
  [entry p "Name" f.name, entry p "Gatherer" f.gatherer, entry p "Argument" f.argument]

/-- The lines of a value. -/
def value (p : Paint) (v : Value) : List String :=
  [entry p "Name" v.name, entry p "Default" v.default.shown] ++
    v.conditions.map fun c => "    " ++ c.payload.shown ++ " when " ++ c.when

/-- The section on the values, where there are any. -/
def values (p : Paint) (vs : List Value) : List String :=
  if vs.isEmpty then [] else ["", p.header "Values"] ++ vs.flatMap (value p)

/-- The lines of an expectation. -/
def expectation (p : Paint) (e : Expectation) : List String :=
  entry p "Name" e.name ::
    (ExprField.all.flatMap fun f =>
      (e.expr? f).toList.map fun text => entry p f.label (stripped text)) ++
    MessageField.all.flatMap fun f =>
      (e.message? f).toList.map fun text => entry p f.label (stripped text)

end Summary

/-- The lines of the summary of a Check. -/
def Check.summaryLines (p : Paint) (c : Check) : List String :=
  Summary.head p c ++ c.metadata.toList.flatMap (Summary.metadata p) ++
    ["", p.header "Facts"] ++ c.facts.flatMap (Summary.fact p) ++
    Summary.values p c.values ++
    ["", p.header "Expectations"] ++ c.expectations.flatMap (Summary.expectation p)

/-- Whether a constant is an integer that is too long to be written. -/
def Scalar.isTooLong : Scalar → Bool
  | .int n => Numeric.isTooLong n
  | _ => false

/-- Whether an integer in a payload is too long to be written. -/
def Payload.isTooLong : Payload → Bool
  | .scalar v => v.isTooLong
  | .list items => items.any Scalar.isTooLong

/-- Whether an integer in a Check is too long to be written. -/
def Check.isTooLong (c : Check) : Bool :=
  c.values.any fun v => v.default.isTooLong || v.conditions.any fun k => k.payload.isTooLong

/-- The summary of a Check, `none` where an integer in it is too long to be written. -/
def Check.summary? (p : Paint) (c : Check) : Option String :=
  if c.isTooLong then none else some ("\n".intercalate (c.summaryLines p))

end CheckDoc
