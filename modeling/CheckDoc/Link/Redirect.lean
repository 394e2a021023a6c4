import CheckDoc.Link.Probe
import CheckDoc.Link.Reference

/-!
# Redirects

A server may answer a request with another place to look, and a client follows such redirects up to
a number of times. What the servers answer is given by routes, of which the first that matches a
request counts.
-/

namespace CheckDoc.Link

/-- The place that a redirect leads to: the link of the request fills in what the place leaves out,
and its fragment stays where the place has none. -/
def redirected (request : Url) (location : String) : Except ProbeFault Url := do
  let badLocation (e : UrlFault) : ProbeFault :=
    .other "RemoteProtocolError" ("Invalid URL in location header: " ++ e.message ++ ".")
  let malformed (e : UrlFault) : ProbeFault := .malformed e.message
  let u ← (Url.parse location).mapError badLocation
  let u ← (if u.scheme.isEmpty then pure u else u.onHostOf request).mapError malformed
  let u ← if u.isAbsolute then pure u else do
    let text ← (Reference.joinText request.text.toList u.text.toList).mapError fun e =>
      .malformed e.message
    (Url.parse (String.ofList text)).mapError malformed
  let kept := request.fragmentText
  let u ← (if kept.isEmpty || !u.fragmentText.isEmpty then pure u
    else u.replacing none (some kept)).mapError malformed
  u.checkHost.mapError malformed
  pure u

/-- What a server answers with. -/
inductive RouteReply where
  /-- A status, and maybe another place to look. -/
  | response (status : Int) (location : Option String)
  /-- Nothing but an answer of the transport. -/
  | transport (a : Answer)

/-- What requests are answered with. -/
structure Route where
  /-- The link, or `*` for all links. -/
  url : String
  /-- The method, where only one is answered so. -/
  method : Option Method
  /-- The answer. -/
  reply : RouteReply

/-- Whether a route is for a request. -/
def Route.fits (r : Route) (m : Method) (url : String) : Bool :=
  (r.url = url || r.url = "*") && (r.method.all (· = m))

/-- The answer of the servers to a request. -/
def serverReply (routes : List Route) (m : Method) (url : String) : RouteReply :=
  match routes.find? fun r => r.fits m url with
  | some r => r.reply
  | none => .response 404 none

/-- The statuses that may lead to another place. -/
def redirectStatuses : List Int := [301, 302, 303, 307, 308]

/-- Why the cookies that come with an answer would have no owner, if there is a reason: the link of
the request does not start with a type, or brackets in it hold no address. -/
def ownerFault? (link : List Char) : Option String :=
  let (before, fragment) :=
    match cutLast '#' link with
    | (some before, fragment) => (before, fragment)
    | (none, s) => (s, [])
  let link := before ++ markedIfAny '#' fragment
  match cut ':' before with
  | (kind, some _) =>
    if kind.isEmpty || kind.contains '/' then
      some ("unknown url type: " ++ Text.quoted (String.ofList link))
    else
      match Reference.ofText [] link with
      | .error f => some f.message
      | .ok _ => none
  | (_, none) => some ("unknown url type: " ++ Text.quoted (String.ofList link))

/-- Why an answer cannot be read, if there is a reason: its place is not ASCII, or the link of the
request is at fault. -/
def answerFault? (link : String) (location : Option String) : Option String :=
  match location.bind fun place => Text.Encoding.ascii.fault? place.toList with
  | some f => some f.message
  | none => ownerFault? link.toList

/-- Sends a request and follows redirects, with at most a number of requests in all. Gives the
requests that were sent, and the answer. -/
def follow (routes : List Route) (m : Method) : Nat → Url → List String × Answer
  | 0, _ => ([], .fault .redirects)
  | n + 1, u =>
    match serverReply routes m u.text with
    | .transport a => ([u.text], a)
    | .response status location =>
      match answerFault? u.text location with
      | some reason => ([u.text], .fault (.malformed reason))
      | none =>
        match redirectStatuses.contains status, location with
        | true, some place =>
          match redirected u place with
          | .error f => ([u.text], .fault f)
          | .ok next =>
            let (sent, answer) := follow routes m n next
            (u.text :: sent, answer)
        | _, _ => ([u.text], .status status)

/-- The link that a request for a text goes to: one that does not say where it leads is a path. -/
def target (text : String) : Except UrlFault Url := do
  let u ← Url.parse text
  let u ← if u.isAbsolute then pure u else u.onNoHost
  u.checkHost
  pure u

/-- Requests a link: gives the requests that were sent, and the answer. -/
def fetch (routes : List Route) (s : LinkSettings) (m : Method) (text : String) :
    List String × Answer :=
  match target text with
  | .error e => ([], .fault (.malformed e.message))
  | .ok u => follow routes m (s.maxRedirects + 1).toNat u

/-- The behaviour of a probe whose servers have the given routes: it answers at once. -/
def routedBehaviour (routes : List Route) (s : LinkSettings) : Behaviour :=
  fun url _ m => .after (.zero false) (fetch routes s m url).2

end CheckDoc.Link
