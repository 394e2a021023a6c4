import CheckDoc.Link.Url

/-!
# References

A link as it is written, and a link that is given relative to another one. Without a scheme it has
the one of its base, without an authority it is on the same host, and without a slash in front its
path starts from the directory of the base. Only some schemes have relative links.
-/

namespace CheckDoc.Link

/-- Why a link cannot be taken apart as it is written. -/
inductive ReferenceFault where
  /-- A bracket of the authority is without its partner. -/
  | bracket
  /-- The address between brackets is of a kind to come and has no version. -/
  | version
  /-- The address between brackets is one of four numbers. -/
  | fourPart
  /-- There is no address between the brackets. -/
  | noAddress (text : String)
  deriving DecidableEq

/-- The wording of a fault. -/
def ReferenceFault.message : ReferenceFault → String
  | .bracket => "Invalid IPv6 URL"
  | .version => "IPvFuture address is invalid"
  | .fourPart => "An IPv4 address cannot be in brackets"
  | .noAddress text => Text.quoted text ++ " does not appear to be an IPv4 or IPv6 address"

/-- A link by its parts, as they are written. -/
structure Reference where
  /-- The scheme, empty where there is none. -/
  scheme : List Char
  /-- User, host and port. -/
  authority : List Char
  /-- The path. -/
  path : List Char
  /-- The parameters of the last step of the path. -/
  parameters : List Char
  /-- What follows a question mark. -/
  query : List Char
  /-- What follows a number sign. -/
  fragment : List Char
  deriving DecidableEq

/-- The schemes with relative links. -/
def relativeSchemes : List String :=
  ["", "ftp", "http", "gopher", "nntp", "imap", "wais", "file", "https", "shttp", "mms",
    "prospero", "rtsp", "rtsps", "rtspu", "sftp", "svn", "svn+ssh", "ws", "wss"]

/-- The schemes whose paths have parameters. -/
def parameterSchemes : List String :=
  ["", "ftp", "hdl", "prospero", "http", "imap", "https", "shttp", "rtsp", "rtsps", "rtspu", "sip",
    "sips", "mms", "sftp", "tel"]

/-- A path and the parameters of its last step. -/
def cutParameters (scheme : List Char) (path : List Char) : List Char × List Char :=
  if parameterSchemes.contains (String.ofList scheme) then
    let (directory, last) := cutLast '/' path
    let (last, parameters) := cut ';' last
    match directory with
    | some d => (d ++ '/' :: last, parameters.getD [])
    | none => (last, parameters.getD [])
  else (path, [])

/-- Whether a text is an address of a kind to come: a version and what it makes of the rest. -/
def isVersioned (s : List Char) : Bool :=
  match cut '.' (s.drop 1) with
  | (version, some rest) => !version.isEmpty && version.all Text.isHexDigit && !rest.isEmpty
  | (_, none) => false

/-- Fails where brackets of an authority do not hold an address. -/
def checkBrackets (authority : List Char) : Except ReferenceFault Unit :=
  if authority.contains '[' != authority.contains ']' then .error .bracket
  else if authority.contains '[' then
    let inner := ((authority.dropWhile (· ≠ '[')).drop 1).takeWhile (· ≠ ']')
    if inner.head? = some 'v' then if isVersioned inner then .ok () else .error .version
    else if isFourPart inner then .error .fourPart
    else if isEightPart inner then .ok ()
    else .error (.noAddress (String.ofList inner))
  else .ok ()

/-- A part with the character in front of it, where it is not empty. -/
def markedIfAny (mark : Char) (s : List Char) : List Char := if s.isEmpty then [] else mark :: s

/-! ## Steps of paths -/

/-- The steps of a relative path from the steps of a base on. A base that ends with a slash is a
directory. -/
def joinSteps (base path : List (List Char)) : List (List Char) :=
  let all := (if base.getLast? = some [] then base else base.dropLast) ++ path
  all.take 1 ++ (((all.drop 1).dropLast).filter fun s => !s.isEmpty) ++ (all.drop 1).getLast?.toList

/-- A step of a path, taken after the steps so far, the last of which comes first. Steps upwards end
at the root. -/
def climb (steps : List (List Char)) (step : List Char) : List (List Char) :=
  if step = ['.', '.'] then steps.drop 1 else if step = ['.'] then steps else step :: steps

/-- The path of some steps. A last step to itself or upwards leaves a slash at the end. -/
def pathOfSteps (steps : List (List Char)) : List Char :=
  let taken := (steps.foldl climb []).reverse
  let last := steps.getLast?.getD []
  let path := ['/'].intercalate (if last = ['.'] || last = ['.', '.'] then taken ++ [[]] else taken)
  if path.isEmpty then ['/'] else path

/-- The path of a link from the steps of the path of a base on. -/
def joinPath (base path : List Char) : List Char :=
  let steps := path.splitOnP (· = '/')
  pathOfSteps
    (if path.head? = some '/' then steps else joinSteps (base.splitOnP (· = '/')) steps)

namespace Reference

/-- Takes a link apart. The given scheme is for a link without one. -/
def ofText (scheme text : List Char) : Except ReferenceFault Reference := do
  let (scheme, s) :=
    match cutScheme? text with
    | some (found, s) => (found.map Char.toLower, s)
    | none => (scheme, text)
  let ends (c : Char) : Bool := c = '/' || c = '?' || c = '#'
  let (authority, s) :=
    match s with
    | '/' :: '/' :: rest => (rest.takeWhile (!ends ·), rest.dropWhile (!ends ·))
    | _ => ([], s)
  checkBrackets authority
  let (s, fragment) := cut '#' s
  let (path, query) := cut '?' s
  let (path, parameters) := cutParameters scheme path
  pure ⟨scheme, authority, path, parameters, query.getD [], fragment.getD []⟩

/-- The text of a link. With a scheme it has the slashes of an authority, even of an empty one. -/
def text (r : Reference) : List Char :=
  let path := r.path ++ markedIfAny ';' r.parameters
  let path :=
    if !r.authority.isEmpty || !r.scheme.isEmpty || path.take 2 = ['/', '/'] then
      '/' :: '/' :: r.authority ++
        (if path.isEmpty || path.head? = some '/' then path else '/' :: path)
    else path
  (if r.scheme.isEmpty then [] else r.scheme ++ [':']) ++ path ++ markedIfAny '?' r.query ++
    markedIfAny '#' r.fragment

/-- A link with what it leaves out filled in from a base of the same scheme. -/
def resolve (base r : Reference) : Reference :=
  if !r.authority.isEmpty then r
  else if r.path.isEmpty && r.parameters.isEmpty then
    { base with query := if r.query.isEmpty then base.query else r.query, fragment := r.fragment }
  else { r with authority := base.authority, path := joinPath base.path r.path }

/-- The text of a link that is given relative to a base. -/
def joinText (base text : List Char) : Except ReferenceFault (List Char) :=
  if text.isEmpty then .ok base
  else do
    let b ← ofText [] base
    let r ← ofText b.scheme text
    if r.scheme = b.scheme && relativeSchemes.contains (String.ofList r.scheme) then
      pure (b.resolve r).text
    else pure text

end Reference

end CheckDoc.Link
