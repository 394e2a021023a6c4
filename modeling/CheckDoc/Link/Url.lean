import CheckDoc.Link.Host
import CheckDoc.Numeric.Reading
import CheckDoc.Text.Encoding
import CheckDoc.Text.Utf8

/-!
# The parts of a link

A link is taken apart into scheme, user, host, port, path, query and fragment. Each part is brought
to one form: the scheme and the host to lower case, the path without steps to itself or upwards, a
port that goes without saying away, and every character that a part may not hold to its octets in
hexadecimal digits. `Url.text` puts the parts together again, and nothing is added to an empty path.
-/

namespace CheckDoc.Link

/-- Why a text is no link. -/
inductive UrlFault where
  /-- The text is too long. -/
  | tooLong
  /-- A part is too long. -/
  | partTooLong (part : String)
  /-- A control character stands at a place of a part. -/
  | controlIn (part : String) (c : Char) (index : Nat)
  /-- A label of the host name has a fault. -/
  | label (f : LabelFault)
  /-- The zone of a host has characters that are not ASCII. -/
  | notAscii (f : Text.EncodingFault)
  /-- A control character stands at a place. -/
  | control (c : Char) (index : Nat)
  /-- The host is like an address of four numbers and is none. -/
  | fourPart (host : String)
  /-- The host is like an address of eight numbers and is none. -/
  | eightPart (host : String)
  /-- The host has no ASCII form. -/
  | hostName (host : String)
  /-- The port is no number. -/
  | port (text : String)
  /-- The path after a host starts with something else than a slash. -/
  | pathStart
  /-- A path on its own starts with two slashes. -/
  | doubleSlash
  /-- A path on its own starts with a colon. -/
  | colon
  deriving DecidableEq

/-- The wording of a fault. -/
def UrlFault.message : UrlFault → String
  | .tooLong => "URL too long"
  | .partTooLong part => "URL component " ++ Text.quoted part ++ " too long"
  | .controlIn part c index =>
    "Invalid non-printable ASCII character in URL " ++ part ++ " component, " ++
      Text.quoted (String.singleton c) ++ " at position " ++ toString index ++ "."
  | .label f => f.message
  | .notAscii f => f.message
  | .control c index =>
    "Invalid non-printable ASCII character in URL, " ++ Text.quoted (String.singleton c) ++
      " at position " ++ toString index ++ "."
  | .fourPart host => "Invalid IPv4 address: " ++ Text.quoted host
  | .eightPart host => "Invalid IPv6 address: " ++ Text.quoted host
  | .hostName host => "Invalid IDNA hostname: " ++ Text.quoted host
  | .port text => "Invalid port: " ++ Text.quoted text
  | .pathStart => "For absolute URLs, path must be empty or begin with '/'"
  | .doubleSlash => "Relative URLs cannot have a path starting with '//'"
  | .colon => "Relative URLs cannot have a path starting with ':'"

/-- A link by its parts. -/
structure Url where
  /-- The scheme, empty where there is none. -/
  scheme : List Char
  /-- The user, empty where there is none. -/
  user : List Char
  /-- The host, empty where there is none. -/
  host : List Char
  /-- The port, where it is not the one of the scheme. -/
  port : Option Int
  /-- The path. -/
  path : List Char
  /-- What follows a question mark. -/
  query : Option (List Char)
  /-- What follows a number sign. -/
  fragment : Option (List Char)
  deriving DecidableEq

/-- The most characters of a link. -/
def maxLength : Nat := 65536

/-- Whether a character may stand in any part. -/
def isUnreserved (c : Char) : Bool := c.isAlphanum || "-._~".toList.contains c

/-- Whether a character is printable ASCII other than the given ones. -/
def isSafe (except : String) (c : Char) : Bool :=
  isUnreserved c || (32 < c.toNat && c.toNat < 127 && !except.toList.contains c)

/-- The octets of a character in hexadecimal digits, each after a percent sign. -/
def percent (c : Char) : List Char :=
  (String.utf8EncodeChar c).flatMap fun b =>
    '%' :: (Text.hexDigits 2 b.toNat).map Char.toUpper

/-- A part with the characters that are not safe in hexadecimal digits. What is in such digits
already stays. -/
def escaped (safe : Char → Bool) : List Char → List Char
  | [] => []
  | '%' :: a :: b :: rest =>
    if Text.isHexDigit a && Text.isHexDigit b then '%' :: a :: b :: escaped safe rest
    else (if safe '%' then ['%'] else percent '%') ++ escaped safe (a :: b :: rest)
  | c :: rest => (if safe c then [c] else percent c) ++ escaped safe rest

/-- The octets of a part in ASCII, with those that stand in hexadecimal digits. -/
def escapedOctets : List Char → List UInt8
  | [] => []
  | '%' :: a :: b :: rest =>
    if Text.isHexDigit a && Text.isHexDigit b then
      UInt8.ofNat (Text.hexValue [a, b]) :: escapedOctets rest
    else UInt8.ofNat '%'.toNat :: escapedOctets (a :: b :: rest)
  | c :: rest => UInt8.ofNat c.toNat :: escapedOctets rest

/-- The characters of a fragment. -/
def fragmentSafe : Char → Bool := isSafe "\"<>\x60"

/-- The characters of a query. -/
def querySafe : Char → Bool := isSafe "\"#<>"

/-- The characters of a path. -/
def pathSafe : Char → Bool := isSafe "\"#<>?\x60\x7b\x7d"

/-- The characters of a user. -/
def userSafe : Char → Bool := isSafe "\"#<>?\x60\x7b\x7d/;=@[\\]^|"

/-- The characters of a host name. -/
def hostSafe (c : Char) : Bool :=
  isUnreserved c || "!$&'()*+,;=\"\x60\x7b\x7d%|\\".toList.contains c

/-- The one form of a host. -/
def hostPart (host : List Char) : Except UrlFault (List Char) :=
  let text := String.ofList host
  if host.isEmpty then .ok []
  else if isFourRuns host then if isFourPart host then .ok host else .error (.fourPart text)
  else if host.head? = some '[' && host.getLast? = some ']' then
    let inner := (host.drop 1).dropLast
    if isEightPart inner then .ok inner else .error (.eightPart text)
  else
    let lowered := Text.lower text
    if host.all Text.isAscii then .ok (escaped hostSafe lowered.toList)
    else
      match hostForm lowered.toList with
      | .ok form => .ok form
      | .error _ => .error (.hostName text)

/-- The port that goes without saying. -/
def standardPort? (scheme : String) : Option Int :=
  match scheme with
  | "ftp" => some 21
  | "http" | "ws" => some 80
  | "https" | "wss" => some 443
  | _ => none

/-- The one form of a port. -/
def portPart (scheme : List Char) (text : List Char) : Except UrlFault (Option Int) :=
  if text.isEmpty then .ok none
  else
    match Numeric.readInt 10 text with
    | .error _ => .error (.port (String.ofList text))
    | .ok n => .ok (if standardPort? (String.ofList scheme) = some n then none else some n)

/-- A step of a path, taken after the steps so far, the last of which comes first. -/
def takeStep (steps : List (List Char)) (step : List Char) : List (List Char) :=
  if step = ['.'] then steps
  else if step = ['.', '.'] then if steps = [[]] then steps else steps.drop 1
  else step :: steps

/-- A path without steps to itself or upwards. -/
def plainPath (path : List Char) : List Char :=
  let steps := path.splitOnP (· = '/')
  if steps.contains ['.'] || steps.contains ['.', '.'] then
    ['/'].intercalate (steps.foldl takeStep []).reverse
  else path

/-- The one form of a path. -/
def pathPart (scheme hasHost : Bool) (path : List Char) : Except UrlFault (List Char) :=
  if hasHost && !path.isEmpty && path.head? ≠ some '/' then .error .pathStart
  else if !scheme && !hasHost && path.take 2 = ['/', '/'] then .error .doubleSlash
  else if !scheme && !hasHost && path.head? = some ':' then .error .colon
  else .ok (escaped pathSafe (if scheme || hasHost then plainPath path else path))

/-- The text before a character and the text after it. -/
def cut (c : Char) (s : List Char) : List Char × Option (List Char) :=
  match s.dropWhile (· ≠ c) with
  | [] => (s, none)
  | _ :: rest => (s.takeWhile (· ≠ c), some rest)

/-- Whether a character may stand in a scheme. -/
def isSchemeChar (c : Char) : Bool := c.isAlphanum || c = '+' || c = '.' || c = '-'

/-- The scheme of a text, and what follows it. -/
def cutScheme? (s : List Char) : Option (List Char × List Char) :=
  match cut ':' s with
  | (before, some rest) =>
    if before.head?.any Char.isAlpha && before.all isSchemeChar then some (before, rest) else none
  | (_, none) => none

/-- The scheme of a text, which may be empty, and what follows it. -/
def cutScheme : List Char → List Char × List Char
  | ':' :: rest => ([], rest)
  | s => (cutScheme? s).getD ([], s)

/-- The text before the last occurrence of a character, where there is one, and the rest. -/
def cutLast (c : Char) (s : List Char) : Option (List Char) × List Char :=
  match cut c s.reverse with
  | (after, some before) => (some before.reverse, after.reverse)
  | (_, none) => (none, s)

/-- The host of what stands between two slashes and the path, and the port after it. -/
def cutPort (s : List Char) : List Char × List Char :=
  let (host, rest) :=
    match s.head?, cutLast ']' s with
    | some '[', (some inner, rest) => (inner ++ [']'], rest)
    | _, _ => (s.takeWhile (· ≠ ':'), s.dropWhile (· ≠ ':'))
  (host, if rest.head? = some ':' then rest.drop 1 else rest)

/-- User, host and port of what stands between two slashes and the path. -/
def cutAuthority (s : List Char) : List Char × List Char × List Char :=
  let (user, rest) := cutLast '@' s
  let (host, port) := cutPort rest
  (user.getD [], host, port)

namespace Url

/-- A link from its raw parts. -/
def ofParts (scheme user host port path : List Char) (query fragment : Option (List Char)) :
    Except UrlFault Url := do
  let user := escaped userSafe user
  let host ← hostPart host
  let port ← portPart scheme port
  let hasHost := !user.isEmpty || !host.isEmpty || port.isSome
  let path ← pathPart (!scheme.isEmpty) hasHost path
  pure ⟨scheme.map Char.toLower, user, host, port, path, query.map (escaped querySafe),
    fragment.map (escaped fragmentSafe)⟩

/-- The first control character of a text, with its place. -/
def control? (s : List Char) : Option (Char × Nat) :=
  s.zipIdx.find? fun (c, _) => c.toNat < 32 || c.toNat = 127

/-- Takes a link apart. -/
def parse (text : String) : Except UrlFault Url :=
  let s := text.toList
  if maxLength < s.length then .error .tooLong
  else
    match control? s with
    | some (c, index) => .error (.control c index)
    | none =>
      let (scheme, s) := cutScheme s
      let (s, fragment) := cut '#' s
      let (s, query) := cut '?' s
      let (authority, path) :=
        match s with
        | '/' :: '/' :: rest => (rest.takeWhile (· ≠ '/'), rest.dropWhile (· ≠ '/'))
        | _ => ([], s)
      let (user, host, port) := cutAuthority authority
      ofParts scheme user host port path query fragment

/-- A host in brackets, if it is an address of eight numbers. -/
def bracketed (host : List Char) : List Char :=
  if host.contains ':' then '[' :: host ++ [']'] else host

/-- The text of host and port. -/
def hostAndPort (u : Url) : List Char :=
  bracketed u.host ++
    match u.port with
    | some n => ':' :: (toString n).toList
    | none => []

/-- The text of user, host and port. -/
def authority (u : Url) : List Char :=
  (if u.user.isEmpty then [] else u.user ++ ['@']) ++ u.hostAndPort

/-- A part with the character in front of it. -/
def marked (mark : Char) : Option (List Char) → List Char
  | some s => mark :: s
  | none => []

/-- The text of a link. -/
def text (u : Url) : String :=
  String.ofList
    ((if u.scheme.isEmpty then [] else u.scheme ++ [':']) ++
      (if u.authority.isEmpty then [] else '/' :: '/' :: u.authority) ++
      u.path ++ marked '?' u.query ++ marked '#' u.fragment)

/-- The host as a name, with the labels that ASCII forms stand for. -/
def hostName (u : Url) : Except UrlFault (List Char) := (hostText u.host).mapError .label

/-- The text that a fragment stands for. -/
def fragmentText (u : Url) : List Char :=
  Text.decodeUtf8Anyway none (escapedOctets (u.fragment.getD []))

/-- Fails where a host is not fit to be sent to: it has no name, or its text is not ASCII. -/
def checkHost (u : Url) : Except UrlFault Unit := do
  let name ← u.hostName
  unless name.isEmpty do
    match Text.Encoding.ascii.fault? u.hostAndPort with
    | some f => throw (.notAscii f)
    | none => pure ()

/-- Fails where a part is too long or holds a control character. -/
def checkPart (part : String) (s : List Char) : Except UrlFault Unit :=
  if maxLength < s.length then .error (.partTooLong part)
  else
    match control? s with
    | some (c, index) => .error (.controlIn part c index)
    | none => .ok ()

/-- A link with another host or fragment, brought to one form once more. -/
def replacing (u : Url) (host fragment : Option (List Char)) : Except UrlFault Url := do
  let fragment := fragment.or u.fragment
  let (user, oldHost, port) := cutAuthority u.authority
  let host := (host.map bracketed).getD oldHost
  checkPart "scheme" u.scheme
  checkPart "authority" u.authority
  checkPart "path" u.path
  checkPart "query" (u.query.getD [])
  checkPart "fragment" (fragment.getD [])
  checkPart "host" host
  ofParts u.scheme user host port u.path u.query fragment

/-- A link with the host of another one, if it has none. -/
def onHostOf (u other : Url) : Except UrlFault Url := do
  if (← u.hostName).isEmpty then u.replacing (some (← other.hostName)) none else pure u

/-- The path and the query of a link, from the root on. -/
def onNoHost (u : Url) : Except UrlFault Url := do
  let path := '/' :: u.path.dropWhile (· = '/')
  checkPart "path" path
  checkPart "query" (u.query.getD [])
  ofParts [] [] [] [] path u.query none

/-- Whether a link says by itself where it leads. -/
def isAbsolute (u : Url) : Bool := !u.scheme.isEmpty && !u.host.isEmpty

end Url

end CheckDoc.Link
