/-!
# Tags

The tag of a node says what it stands for. A plain scalar has its tag from its content: words for
truth values and for nothing, integers in four bases and in base 60, numbers with a point, dates,
the signs for merged and default values, and those of the format itself, which only a quoted scalar
can consist of.
-/

namespace CheckDoc.Yaml

/-- The tags of the format, and any other. -/
inductive Tag where
  /-- A text. -/
  | str
  /-- A sequence. -/
  | seq
  /-- A mapping. -/
  | map
  /-- Nothing. -/
  | null
  /-- A truth value. -/
  | bool
  /-- An integer. -/
  | int
  /-- A floating point number. -/
  | float
  /-- Octets. -/
  | binary
  /-- A date or a date with a time. -/
  | timestamp
  /-- An ordered map. -/
  | omap
  /-- A list of pairs. -/
  | pairs
  /-- A set. -/
  | set
  /-- The sign of merged mappings. -/
  | merge
  /-- The sign of a default value. -/
  | value
  /-- Another tag. -/
  | other (name : String)
  deriving DecidableEq

namespace Tag

/-- What the names of the tags of the format begin with. -/
def space : String := "tag:yaml.org,2002:"

/-- The tags of the format with the ends of their names. -/
def table : List (Tag × String) :=
  [(.str, "str"), (.seq, "seq"), (.map, "map"), (.null, "null"), (.bool, "bool"), (.int, "int"),
   (.float, "float"), (.binary, "binary"), (.timestamp, "timestamp"), (.omap, "omap"),
   (.pairs, "pairs"), (.set, "set"), (.merge, "merge"), (.value, "value")]

/-- The tag of a name. -/
def ofName (name : String) : Tag :=
  match table.find? fun entry => space ++ entry.2 = name with
  | some (tag, _) => tag
  | none => .other name

/-- The tag of the signs that a node may begin with. -/
def sign : Tag := .other (space ++ "yaml")

/-- The name of a tag. -/
def name : Tag → String
  | .other n => n
  | tag => space ++ ((table.find? fun entry => entry.1 = tag).map (·.2)).getD ""

end Tag

/-! ## The content of plain scalars -/

namespace Content

/-- A text after an optional sign. -/
def unsigned : List Char → List Char
  | '+' :: s => s
  | '-' :: s => s
  | s => s

/-- Whether a text is made of digits and underscores and begins with a digit. -/
def isDigits : List Char → Bool
  | [] => false
  | c :: s => c.isDigit && s.all fun x => x.isDigit || x = '_'

/-- Whether a text is a sexagesimal place: one digit, or two of which the first is at most five. -/
def isSixty : List Char → Bool
  | [c] => c.isDigit
  | [c, d] => '0' ≤ c && c ≤ '5' && d.isDigit
  | _ => false

/-- Whether a text is a word for a truth value. -/
def isBool (s : List Char) : Bool :=
  ["yes", "Yes", "YES", "no", "No", "NO", "true", "True", "TRUE", "false", "False", "FALSE",
   "on", "On", "ON", "off", "Off", "OFF"].contains (String.ofList s)

/-- Whether a text is a word for nothing. -/
def isNull (s : List Char) : Bool := ["", "~", "null", "Null", "NULL"].contains (String.ofList s)

/-- Whether a text is an integer: binary, octal, decimal, hexadecimal or sexagesimal. -/
def isInt (s : List Char) : Bool :=
  match unsigned s with
  | ['0'] => true
  | '0' :: 'b' :: d :: ds => (d :: ds).all fun x => x = '0' || x = '1' || x = '_'
  | '0' :: 'x' :: d :: ds =>
    (d :: ds).all fun x =>
      x.isDigit || ('a' ≤ x && x ≤ 'f') || ('A' ≤ x && x ≤ 'F') || x = '_'
  | '0' :: d :: ds => (d :: ds).all fun x => ('0' ≤ x && x ≤ '7') || x = '_'
  | body =>
    match body.splitOnP (· = ':') with
    | [] => false
    | first :: places => isDigits first && places.all isSixty

/-- Whether a text is empty or an exponent with its sign. -/
def isExponent : List Char → Bool
  | [] => true
  | e :: sign :: d :: ds =>
    (e = 'e' || e = 'E') && (sign = '+' || sign = '-') && (d :: ds).all Char.isDigit
  | _ => false

/-- Whether a text is a fraction with an optional exponent. -/
def isFraction (s : List Char) : Bool :=
  isExponent (s.dropWhile fun x => x.isDigit || x = '_')

/-- Whether a text is a number with a point, or a word for an infinity or for no number. -/
def isFloat (s : List Char) : Bool :=
  let body := unsigned s
  let word := String.ofList
  [".inf", ".Inf", ".INF"].contains (word body) || [".nan", ".NaN", ".NAN"].contains (word s) ||
    (match s with
      | '.' :: d :: ds => d.isDigit && isFraction ds
      | _ => false) ||
    (let whole := body.takeWhile (· ≠ '.')
     match body.dropWhile (· ≠ '.') with
     | [] => false
     | _ :: part =>
       (isDigits whole && isFraction part) ||
         (match whole.splitOnP (· = ':') with
           | first :: place :: places =>
             isDigits first && (place :: places).all isSixty &&
               part.all fun x => x.isDigit || x = '_'
           | _ => false))

/-- The distance of a time from universal time. -/
inductive Zone where
  /-- None. -/
  | universal
  /-- A sign, hours and minutes. -/
  | shifted (sign : Char) (hours minutes : List Char)

/-- The parts of a date with or without a time, as they stand in a text. -/
structure Moment where
  /-- The year. -/
  year : List Char
  /-- The month. -/
  month : List Char
  /-- The day. -/
  day : List Char
  /-- The hour, the minute, the second and the digits of the fraction. -/
  time : Option (List Char × List Char × List Char × List Char)
  /-- The zone, if the text names one. -/
  zone : Option Zone

/-- Reads `least` to `most` digits. -/
def digits? (least most : Nat) (s : List Char) : Option (List Char × List Char) :=
  let ds := (s.take most).takeWhile Char.isDigit
  if least ≤ ds.length then some (ds, s.drop ds.length) else none

/-- Moves over a character. -/
def expect? (c : Char) : List Char → Option (List Char)
  | [] => none
  | x :: s => if x = c then some s else none

/-- Whether a character is a space or a tab. -/
def isTab (c : Char) : Bool := c = ' ' || c = '\t'

/-- Reads the zone at the end of a time. -/
def zone? (s : List Char) : Option (Option Zone) :=
  match s with
  | [] => some none
  | _ =>
    match s.dropWhile isTab with
    | ['Z'] => some (some .universal)
    | sign :: rest =>
      if sign = '+' ∨ sign = '-' then do
        let (hours, rest) ← digits? 1 2 rest
        match rest with
        | [] => some (some (.shifted sign hours []))
        | _ =>
          let rest ← expect? ':' rest
          let (minutes, rest) ← digits? 2 2 rest
          if rest.isEmpty then some (some (.shifted sign hours minutes)) else none
      else none
    | [] => none

/-- Reads a date; the month and the day may have one digit. -/
def moment? (s : List Char) : Option Moment := do
  let (year, rest) ← digits? 4 4 s
  let rest ← expect? '-' rest
  let (month, rest) ← digits? 1 2 rest
  let rest ← expect? '-' rest
  let (day, rest) ← digits? 1 2 rest
  match rest with
  | [] => some ⟨year, month, day, none, none⟩
  | c :: _ =>
    let rest ←
      if c = 'T' ∨ c = 't' then some (rest.drop 1)
      else if isTab c then some (rest.dropWhile isTab)
      else none
    let (hour, rest) ← digits? 1 2 rest
    let rest ← expect? ':' rest
    let (minute, rest) ← digits? 2 2 rest
    let rest ← expect? ':' rest
    let (second, rest) ← digits? 2 2 rest
    let (fraction, rest) := match rest with
      | '.' :: rest => (rest.takeWhile Char.isDigit, rest.dropWhile Char.isDigit)
      | rest => ([], rest)
    let zone ← zone? rest
    some ⟨year, month, day, some (hour, minute, second, fraction), zone⟩

/-- Whether a plain text is a date; without a time it has two digits for the month and the day. -/
def isTimestamp (s : List Char) : Bool :=
  match moment? s with
  | none => false
  | some m => m.time.isSome || (m.month.length = 2 && m.day.length = 2)

/-- A text without a line feed at its end. -/
def chomp (s : List Char) : List Char :=
  if s.getLast? = some '\n' then s.dropLast else s

/-- The tag of a scalar whose content decides. -/
def tagOf (value : String) : Tag :=
  let s := chomp value.toList
  if value.isEmpty then .null
  else if isBool s then .bool
  else if isFloat s then .float
  else if isInt s then .int
  else if s = ['<', '<'] then .merge
  else if !s.isEmpty && isNull s then .null
  else if isTimestamp s then .timestamp
  else if s = ['='] then .value
  else if [['!'], ['&'], ['*']].contains s then .sign
  else .str

end Content

end CheckDoc.Yaml
