import CheckDoc.Link.LabelChar
import CheckDoc.Link.Punycode
import CheckDoc.Text.Composition
import CheckDoc.Text.Direction
import CheckDoc.Text.Joining
import CheckDoc.Text.Quoted
import CheckDoc.Text.Script

/-!
# Labels of host names

A label is checked before it is used: it is composed text of characters that labels may hold, it
does not begin with a mark, hyphens stand inside it, the characters that are bound to some places
stand there, and letters of both directions do not mix. A label with other characters than ASCII has
an ASCII form, which begins with `xn--`.
-/

namespace CheckDoc.Link

/-- What is wrong with a label or a host name. A place is counted from one. -/
inductive LabelFault where
  /-- The label is too long. -/
  | tooLong
  /-- The host name is too long. -/
  | nameTooLong
  /-- The label is empty. -/
  | empty
  /-- The label is not composed. -/
  | notComposed
  /-- The third and fourth characters are hyphens. -/
  | innerHyphens
  /-- The first or the last character is a hyphen. -/
  | outerHyphen
  /-- The first character is a mark. -/
  | mark
  /-- A character joins letters that it does not stand between. -/
  | joiner (c : Char) (place : Nat) (label : String)
  /-- A character stands where it may not stand. -/
  | place (c : Char) (place : Nat) (label : String)
  /-- A character stands in no label. -/
  | character (c : Char) (place : Nat) (label : String)
  /-- A character has no direction. -/
  | noDirection (place : Nat) (label : String)
  /-- The first character is no letter, while others run to the left. -/
  | firstDirection (label : String)
  /-- A character cannot stand among those that run to the left. -/
  | amongRight (place : Nat)
  /-- A character cannot stand among those that run to the right. -/
  | amongLeft (place : Nat)
  /-- There are numbers of both kinds. -/
  | numbers
  /-- The last character is no letter or number. -/
  | lastDirection
  /-- An ASCII form has nothing after its sign. -/
  | emptyForm
  /-- An ASCII form ends with a hyphen. -/
  | formHyphen
  /-- An ASCII form cannot be read. -/
  | form
  deriving DecidableEq

/-- A code point as it is named in reports. -/
def codeName (c : Char) : String :=
  let n := Text.codeOf c
  let width := if n < 0x10000 then 4 else if n < 0x100000 then 5 else 6
  "U+" ++ String.ofList ((Text.hexDigits width n).map Char.toUpper)

/-- The wording of a fault. -/
def LabelFault.message : LabelFault → String
  | .tooLong => "Label too long"
  | .nameTooLong => "Domain too long"
  | .empty => "Empty Label"
  | .notComposed => "Label must be in Normalization Form C"
  | .innerHyphens => "Label has disallowed hyphens in 3rd and 4th position"
  | .outerHyphen => "Label must not start or end with a hyphen"
  | .mark => "Label begins with an illegal combining character"
  | .joiner c n label =>
    "Unknown codepoint adjacent to joiner " ++ codeName c ++ " at position " ++ toString n ++
      " in " ++ Text.quoted label
  | .place c n label =>
    "Codepoint " ++ codeName c ++ " not allowed at position " ++ toString n ++ " in " ++
      Text.quoted label
  | .character c n label =>
    "Codepoint " ++ codeName c ++ " at position " ++ toString n ++ " of " ++
      Text.quoted label ++ " not allowed"
  | .noDirection n label =>
    "Unknown directionality in label " ++ Text.quoted label ++ " at position " ++ toString n
  | .firstDirection label =>
    "First codepoint in label " ++ Text.quoted label ++ " must be directionality L, R or AL"
  | .amongRight n =>
    "Invalid direction for codepoint at position " ++ toString n ++ " in a right-to-left label"
  | .amongLeft n =>
    "Invalid direction for codepoint at position " ++ toString n ++ " in a left-to-right label"
  | .numbers => "Can not mix numeral types in a right-to-left label"
  | .lastDirection => "Label ends with illegal codepoint directionality"
  | .emptyForm => "Malformed A-label, no Punycode eligible content found"
  | .formHyphen => "A-label must not end with a hyphen"
  | .form => "Invalid A-label"

/-! ## Places -/

/-- Whether a joiner may stand after `before`, which is given backwards, and before `after`: after
a mark that takes the vowel from its letter, or, where it keeps letters apart, between letters that
would join. -/
def joinerFits (c : Char) (before after : List Char) : Bool :=
  let joined := before.dropWhile Text.isTransparent
  let next := after.dropWhile Text.isTransparent
  let named := before.head?.all fun x => Text.isPrintable x || labelRole x = .joiner
  before.head?.any (Text.markClass · = 9) ||
    (c.toNat = 0x200C && named && joined.head?.any Text.joinsNext &&
      next.head?.any Text.joinsPrevious)

/-- Whether a character lies among the Arabic digits. -/
def isArabicDigit (c : Char) : Bool := 0x660 ≤ c.toNat && c.toNat ≤ 0x669

/-- Whether a character lies among the Arabic digits of the east. -/
def isEasternDigit (c : Char) : Bool := 0x6F0 ≤ c.toNat && c.toNat ≤ 0x6F9

/-- Whether a bound character may stand in `label` after `before`, which is given backwards, and
before `after`: the middle dot between two `l`, the Greek number sign before a Greek letter, Hebrew
punctuation after a Hebrew letter, the middle dot of Katakana in a label that holds Japanese script,
and digits of one Arabic kind without those of the other. -/
def boundFits (c : Char) (label before after : List Char) : Bool :=
  if c.toNat = 0xB7 then before.head? = some 'l' && after.head? = some 'l'
  else if c.toNat = 0x375 then after.head?.any Text.Script.greek.has
  else if c.toNat = 0x5F3 || c.toNat = 0x5F4 then before.head?.any Text.Script.hebrew.has
  else if c.toNat = 0x30FB then
    label.any fun x => x.toNat ≠ 0x30FB &&
      (Text.Script.hiragana.has x || Text.Script.katakana.has x || Text.Script.han.has x)
  else if isArabicDigit c then !label.any isEasternDigit
  else !label.any isArabicDigit

/-- Checks the characters of `label` that come after `before`, which is given backwards. -/
def checkCharacters (label before : List Char) : List Char → Except LabelFault Unit
  | [] => .ok ()
  | c :: after =>
    let place := before.length + 1
    let text := String.ofList label
    match labelRole c with
    | .free => checkCharacters label (c :: before) after
    | .joiner =>
      if joinerFits c before after then checkCharacters label (c :: before) after
      else .error (.joiner c place text)
    | .bound =>
      if boundFits c label before after then checkCharacters label (c :: before) after
      else .error (.place c place text)
    | .refused => .error (.character c place text)

/-! ## Directions -/

open Text (Direction) in
/-- Whether a character runs to the left. -/
def runsLeft (d : Direction) : Bool := d = .right || d = .arabic || d = .arabicNumber

open Text (Direction) in
/-- Checks directions from a place on in a label whose first letter runs to the left. `ends` says
whether the label may end here, and `kind` is the kind of its numbers. -/
def checkLeftward (place : Nat) (ends : Bool) (kind : Option Direction) :
    List Direction → Except LabelFault Unit
  | [] => if ends then .ok () else .error .lastDirection
  | d :: more =>
    let isNumber := d = .number || d = .arabicNumber
    if d = .left then .error (.amongRight place)
    else if isNumber && kind.any (· ≠ d) then .error .numbers
    else
      checkLeftward (place + 1) (runsLeft d || d = .number || (d = .nonspacing && ends))
        (if isNumber then some d else kind) more

/-- Checks the directions of the characters of a label, which matter only where some of them run to
the left. -/
def checkDirections (label : List Char) : Except LabelFault Unit := do
  let text := String.ofList label
  let directions ← label.zipIdx.mapM fun (c, i) =>
    match Text.direction? c with
    | some d => pure d
    | none => throw (.noDirection (i + 1) text)
  if directions.any runsLeft then
    match directions.head? with
    | some .right | some .arabic => checkLeftward 1 false none directions
    | some .left => throw (.amongLeft ((directions.takeWhile fun d => !runsLeft d).length + 1))
    | _ => throw (.firstDirection text)

/-! ## Forms -/

/-- The most characters of a host name, with a point at its end. -/
def maxName : Nat := 254

/-- The most characters of the ASCII form of a label. -/
def maxLabel : Nat := 63

/-- Checks a label. -/
def checkLabel (label : List Char) : Except LabelFault Unit := do
  if label.isEmpty then throw .empty
  if maxName < label.length then throw .tooLong
  if !Text.isComposed label then throw .notComposed
  if (label.drop 2).take 2 = ['-', '-'] then throw .innerHyphens
  if label.head? = some '-' || label.getLast? = some '-' then throw .outerHyphen
  if label.head?.any Text.isMark then throw .mark
  checkCharacters label [] label
  checkDirections label

/-- What an ASCII form begins with. -/
def formSign : List Char := "xn--".toList

/-- The label that ASCII characters stand for: themselves, or what an ASCII form is read as. -/
def labelText (label : List Char) : Except LabelFault (List Char) :=
  if formSign.isPrefixOf label then
    let form := label.drop formSign.length
    if form.isEmpty then .error .emptyForm
    else if form.getLast? = some '-' then .error .formHyphen
    else
      match Punycode.decode? form with
      | none => .error .form
      | some text => (checkLabel text).map fun _ => text
  else (checkLabel label).map fun _ => label

/-- The ASCII form of a label in lower case. -/
def labelForm (label : List Char) : Except LabelFault (List Char) := do
  let form ←
    if label.all fun c => c.toNat < 128 then (labelText label).map fun _ => label
    else (checkLabel label).map fun _ => formSign ++ Punycode.encode label
  if maxLabel < form.length then throw .tooLong
  pure form

end CheckDoc.Link
