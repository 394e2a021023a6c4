import CheckDoc.Link.Label
import CheckDoc.Text.Hex
import CheckDoc.Text.Lowercase

/-!
# Hosts

The host of a link is a name or an address. Four runs of digits with points between them are an
address of four numbers, and brackets hold one of eight; either must be well-formed. A name is
brought to lower case, and one with other characters than ASCII to its ASCII form.
-/

namespace CheckDoc.Link

/-- Whether a text is four runs of digits with points between them. -/
def isFourRuns (s : List Char) : Bool :=
  let parts := s.splitOnP (· = '.')
  parts.length = 4 && parts.all fun part => !part.isEmpty && part.all Char.isDigit

/-- Whether a text is a number of an address of four numbers. -/
def isOctet (s : List Char) : Bool :=
  !s.isEmpty && s.all Char.isDigit && s.length ≤ 3 && !(1 < s.length && s.head? = some '0') &&
    Nat.ofDigitChars 10 s 0 ≤ 255

/-- Whether a text is an address of four numbers. -/
def isFourPart (s : List Char) : Bool :=
  let parts := s.splitOnP (· = '.')
  parts.length = 4 && parts.all isOctet

/-- Whether a text is a number of an address of eight numbers. -/
def isHextet (s : List Char) : Bool := !s.isEmpty && s.all Text.isHexDigit && s.length ≤ 4

/-- Whether the parts between colons are an address of eight numbers. One empty part inside stands
for any numbers that are missing; then the ends may be empty too, next to it. -/
def isEightPartList (parts : List (List Char)) : Bool :=
  let inner := (parts.drop 1).dropLast
  match inner.findIdx? List.isEmpty with
  | some k =>
    let high := parts.take (k + 1)
    let low := parts.drop (k + 2)
    let high' := if high.head?.all List.isEmpty then high.drop 1 else high
    let low' := if low.getLast?.all List.isEmpty then low.dropLast else low
    inner.countP List.isEmpty = 1 &&
      (high'.length = high.length || high'.isEmpty) && (low'.length = low.length || low'.isEmpty) &&
      high'.length + low'.length < 8 && high'.all isHextet && low'.all isHextet
  | none => parts.length = 8 && parts.all isHextet

/-- Whether a text is an address of eight numbers, the last two of which may be written as four. A
zone may follow. -/
def isEightPart (s : List Char) : Bool :=
  let address := s.takeWhile (· ≠ '%')
  let zone := (s.dropWhile (· ≠ '%')).drop 1
  let zoneOk := address.length = s.length || (!zone.isEmpty && !zone.contains '%')
  let parts := address.splitOnP (· = ':')
  let last := parts.getLast?.getD []
  let partsOk :=
    if last.contains '.' then
      isFourPart last && isEightPartList (parts.dropLast ++ [['0'], ['0']])
    else isEightPartList parts
  zoneOk && !s.contains '/' && 3 ≤ parts.length && partsOk

/-! ## Names -/

/-- Whether a character stands between labels. -/
def isLabelEnd (c : Char) : Bool := ['.', '。', '．', '｡'].contains c

/-- A host name with each label brought to another form. A point may follow the last label. -/
def mapLabels (form : List Char → Except LabelFault (List Char)) (name : List Char) :
    Except LabelFault (List Char) := do
  if maxName < name.length then throw .nameTooLong
  let labels := name.splitOnP isLabelEnd
  let (labels, point) :=
    if labels.getLast? = some [] then (labels.dropLast, ['.']) else (labels, [])
  let forms ← labels.mapM form
  pure (['.'].intercalate forms ++ point)

/-- The ASCII form of a host name in lower case. -/
def hostForm (name : List Char) : Except LabelFault (List Char) := do
  let form ← mapLabels labelForm name
  if maxName - 1 + (if form.getLast? = some '.' then 1 else 0) < form.length then
    throw .nameTooLong
  pure form

/-- The host name that an ASCII form stands for. A name that does not begin with an ASCII form of a
label stands for itself. -/
def hostText (name : List Char) : Except LabelFault (List Char) :=
  if formSign.isPrefixOf name then mapLabels labelText name else .ok name

end CheckDoc.Link
