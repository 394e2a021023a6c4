import CheckDoc.Expr.Basic
import CheckDoc.Numeric.Reading
import CheckDoc.Text.Encoding
import CheckDoc.Text.Lowercase
import CheckDoc.Yaml.Node

/-!
# The data of nodes

What the scalars of a document stand for, by their tags. A tag that a text gives to a scalar is
honoured also where the content does not fit it, which is then an error of its own kind.
-/

namespace CheckDoc.Yaml

/-- Why a date is none. -/
inductive DateCause where
  /-- The year is zero. -/
  | year
  /-- The month is not from 1 to 12. -/
  | month
  /-- The month has no such day. -/
  | day
  /-- The hour is not from 0 to 23. -/
  | hour
  /-- The minute is not from 0 to 59. -/
  | minute
  /-- The second is not from 0 to 59. -/
  | second
  /-- The zone is a day or more away from universal time, by the given number of minutes. -/
  | zone (minutes : Int)

/-- The wording of a cause. A distance is given in days, counted downwards, and seconds. -/
def DateCause.message : DateCause → String
  | .year => "year 0 is out of range"
  | .month => "month must be in 1..12"
  | .day => "day is out of range for month"
  | .hour => "hour must be in 0..23"
  | .minute => "minute must be in 0..59"
  | .second => "second must be in 0..59"
  | .zone minutes =>
    let seconds := minutes * 60 % 86400
    "offset must be a timedelta strictly between -timedelta(hours=24) and timedelta(hours=24), " ++
      "not datetime.timedelta(days=" ++ toString (minutes * 60 / 86400) ++
      (if seconds = 0 then "" else ", seconds=" ++ toString seconds) ++ ")."

/-- Why nothing can be built for a node. -/
inductive BuildError where
  /-- A fault with a place in the text. -/
  | fault (f : Fault)
  /-- A truth value that is no word for one. -/
  | word (s : String)
  /-- An integer in `base` with other characters. -/
  | integer (s : String) (base : Nat)
  /-- An integer with too many digits. -/
  | integerLength (digits : Nat)
  /-- A floating point number with other characters. -/
  | float (s : String)
  /-- A number too large for a floating point number. -/
  | floatRange
  /-- A number without a character. -/
  | noNumber
  /-- A date that does not exist. -/
  | date (cause : DateCause)
  /-- A date that is not written as one. -/
  | noDate
  /-- A date that is a collection of the named type. -/
  | dateKind (found : String)

/-- The report of an error in `text`. -/
def BuildError.message (text : List Char) : BuildError → String
  | .fault f => f.report text
  | .word s => Text.quoted s
  | .integer s base =>
    "invalid literal for int() with base " ++ toString base ++ ": " ++
      String.ofList ((Text.quoted s).toList.take 200)
  | .integerLength digits => Numeric.lengthMessage (some digits)
  | .float s => "could not convert string to float: " ++ Text.quoted s
  | .floatRange => "int too large to convert to float"
  | .noNumber => "string index out of range"
  | .date cause => cause.message
  | .noDate => "'NoneType' object has no attribute 'groupdict'"
  | .dateKind found => "expected string or bytes-like object, got " ++ Text.quoted found

/-- The kinds of dates. -/
inductive MomentKind where
  /-- A date without a time. -/
  | date
  /-- A date with a time of no zone. -/
  | local_
  /-- A date with a time of a zone. -/
  | zoned
  deriving DecidableEq

/-- The kind of a date. -/
def MomentKind.of (m : Content.Moment) : MomentKind :=
  if m.time.isNone then .date else if m.zone.isNone then .local_ else .zoned

/-- What a scalar stands for. -/
inductive Datum where
  /-- Nothing. -/
  | null
  /-- A text, a number or a truth value. -/
  | scalar (v : Scalar)
  /-- Octets, as they are encoded. -/
  | octets (code : String)
  /-- A date, with a time or without one, as it is written. -/
  | moment (kind : MomentKind) (text : String)
  /-- An empty collection, which a collection tag makes of a scalar. -/
  | collection

namespace Datum

/-- The truth value of a word. -/
def bool (s : String) : Except BuildError Datum :=
  let w := Text.lower s
  if ["yes", "true", "on"].contains w then .ok (.scalar (.bool true))
  else if ["no", "false", "off"].contains w then .ok (.scalar (.bool false))
  else .error (.word w)

/-- An integer of a base, with the text that is shown where it is none. -/
def readInt (base : Nat) (s : List Char) : Except BuildError Int :=
  match Numeric.readInt base s with
  | .ok n => .ok n
  | .error .malformed => .error (.integer (String.ofList s) base)
  | .error (.tooLong digits) => .error (.integerLength digits)

/-- The sign and the rest of a number without its underscores. -/
def signed (s : List Char) : Except BuildError (Bool × List Char) :=
  match s.filter (· ≠ '_') with
  | [] => .error .noNumber
  | c :: cs =>
    if c = '-' then .ok (true, cs) else if c = '+' then .ok (false, cs) else .ok (false, c :: cs)

/-- The integer of a text: in base 2, 16 or 8 by what it begins with, sexagesimal with colons, and
decimal otherwise. -/
def int (s : String) : Except BuildError Datum := do
  let (neg, body) ← signed s.toList
  let n ← match body with
    | ['0'] => pure 0
    | '0' :: 'b' :: rest => readInt 2 rest
    | '0' :: 'x' :: rest => readInt 16 rest
    | [] => throw .noNumber
    | '0' :: _ => readInt 8 body
    | _ =>
      if body.contains ':' then do
        let places ← (body.splitOnP (· = ':')).mapM (readInt 10)
        pure (places.foldl (fun n place => 60 * n + place) 0)
      else readInt 10 body
  pure (.scalar (.int (if neg then -n else n)))

/-- The number of a text. -/
def readFloat (s : List Char) : Except BuildError Binary64 :=
  match Numeric.readFloat? s with
  | some x => .ok x
  | none => .error (.float (String.ofList s))

/-- The sum of sexagesimal places, the last one first. -/
def sixties (base : Nat) (sum : Binary64) : List Binary64 → Except BuildError Binary64
  | [] => .ok sum
  | x :: xs =>
    match Binary64.ofInt? base with
    | none => .error .floatRange
    | some b => sixties (base * 60) (sum.add (x.mul b)) xs

/-- The floating point number of a text: a word, sexagesimal with colons, or decimal. -/
def float (s : String) : Except BuildError Datum := do
  let (neg, body) ← signed (Text.lower (String.ofList (s.toList.filter (· ≠ '_')))).toList
  let x ←
    if body = ['.', 'i', 'n', 'f'] then pure (Binary64.infinite false)
    else if body = ['.', 'n', 'a', 'n'] then pure Binary64.nan
    else if body.contains ':' then do
      let places ← (body.splitOnP (· = ':')).mapM readFloat
      sixties 1 (.zero false) places.reverse
    else readFloat body
  pure (.scalar (.float (if neg then Binary64.mul (.ofRatio true 1 1) x else x)))

/-- The value of a base 64 character. -/
def sextet? (c : Char) : Bool := c.isAlphanum || c = '+' || c = '/'

/-- Goes through base 64 data: the number of characters, the place in the quad and the padding so
far. Other characters are passed over, and the data ends with its padding. -/
def sextets : Nat → Nat → Nat → List Char → Option String
  | count, place, _, [] =>
    if place = 0 then none
    else if place = 1 then
      some ("Invalid base64-encoded string: number of data characters (" ++ toString count ++
        ") cannot be 1 more than a multiple of 4")
    else some "Incorrect padding"
  | count, place, pads, c :: cs =>
    if c = '=' then
      if 2 ≤ place then
        if 4 ≤ place + pads + 1 then none else sextets count place (pads + 1) cs
      else sextets count place pads cs
    else if sextet? c then sextets (count + 1) ((place + 1) % 4) 0 cs
    else sextets count place pads cs

/-- The octets of a text in base 64. -/
def binary (s : String) (m : Mark) : Except BuildError Datum :=
  match Text.Encoding.ascii.fault? s.toList with
  | some f =>
    .error (.fault ⟨none,
      .encodedData ("failed to convert base64 data into ascii: " ++ f.message), m⟩)
  | none =>
    match sextets 0 0 0 s.toList with
    | some reason =>
      .error (.fault ⟨none, .encodedData ("failed to decode base64 data: " ++ reason), m⟩)
    | none => .ok (.octets s)

/-- The number of days of a month. -/
def daysIn (year month : Nat) : Nat :=
  if month = 2 then
    if year % 4 = 0 ∧ (year % 100 ≠ 0 ∨ year % 400 = 0) then 29 else 28
  else if month = 4 ∨ month = 6 ∨ month = 9 ∨ month = 11 then 30
  else 31

/-- Checks a date: the zone first, then the date, then the time. -/
def checkMoment (m : Content.Moment) : Except DateCause Unit := do
  let nat (s : List Char) : Nat := Nat.ofDigitChars 10 s 0
  if m.time.isSome then
    if let some (.shifted sign hours minutes) := m.zone then
      let distance : Int := nat hours * 60 + nat minutes
      let distance := if sign = '-' then -distance else distance
      if distance ≤ -1440 ∨ 1440 ≤ distance then throw (.zone distance)
  if nat m.year = 0 then throw .year
  if nat m.month = 0 ∨ 12 < nat m.month then throw .month
  if nat m.day = 0 ∨ daysIn (nat m.year) (nat m.month) < nat m.day then throw .day
  if let some (hour, minute, second, _) := m.time then
    if 23 < nat hour then throw .hour
    if 59 < nat minute then throw .minute
    if 59 < nat second then throw .second

/-- The date of a text. -/
def timestamp (s : String) : Except BuildError Datum :=
  match Content.moment? (Content.chomp s.toList) with
  | none => .error .noDate
  | some m =>
    match checkMoment m with
    | .ok () => .ok (.moment (.of m) s)
    | .error cause => .error (.date cause)

/-- What a scalar with a tag stands for. -/
def ofScalar (tag : Tag) (value : String) (m : Mark) : Except BuildError Datum :=
  match tag with
  | .str => .ok (.scalar (.str value))
  | .null => .ok .null
  | .bool => bool value
  | .int => int value
  | .float => float value
  | .binary => binary value m
  | .timestamp => timestamp value
  | .seq | .map | .set | .omap | .pairs => .ok .collection
  | .merge | .value | .other _ => .error (.fault ⟨none, .unknownTag tag.name, m⟩)

end Datum

end CheckDoc.Yaml
