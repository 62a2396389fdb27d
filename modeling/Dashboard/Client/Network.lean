import Dashboard.Client.Request

/-!
# The network

What a request meets, and how it gets to an answer. A reply may be an answer
whose body breaks off, and it may name another URL to ask; then that URL is
asked in its place, and so on for ten times at most.

## What is sent to another URL

The request goes out as it was only if the status says so. Any other status
turns a save into a plain question, without the document that was to be
saved. The key goes along in each case.

## Main definitions

* `Transfer`, `Answer`, `Reply`, `Network` — what requests meet.
* `Answer.direction` — where an answer says to ask.
* `Client.send` — the requests that are sent in place of one, and their answer.
-/

namespace Dashboard.Client

/-! ## Replies -/

/-- What arrives of the body of an answer. -/
inductive Transfer where
  | whole (body : Bytes)
  /-- It broke off, for this reason. -/
  | broken (reason : String)
  deriving DecidableEq

/-- What a server sends back. -/
structure Answer where
  status : Nat
  /-- A reference to another URL. -/
  location : Option String
  /-- The name of the encoding of the body. -/
  charset : Option String
  body : Transfer
  deriving DecidableEq

/-- An answer of which nothing is known but its status and its body. -/
def Answer.bare (status : Nat) (body : Bytes) : Answer := ⟨status, none, none, .whole body⟩

/-- What a server does once it has read a request. -/
inductive Reply where
  | answer (a : Answer)
  /-- It ends the connection, or does nothing until the time is up. -/
  | hangUp
  deriving DecidableEq

/-- What the requests of a call meet. -/
structure Network where
  /-- The reply to a request to this URL after so many others; there is none if
  nobody listens. -/
  reply : Nat → Url → Option Reply

/-- A network where nobody listens. -/
def Network.down : Network := ⟨fun _ _ => none⟩

/-- A network with one server, which replies once. -/
def Network.serving (origin : String) (reply : Reply) : Network :=
  ⟨fun n url => if n = 0 ∧ url.origin = origin then some reply else none⟩

/-- Whether a status ends a reply. The ones below are followed by another answer
to the same request, but for the one that switches protocols. -/
def isFinal (status : Nat) : Bool := status == 101 || 200 ≤ status && status ≤ 999

/-- Whether a status comes without a body, whatever is sent after it. -/
def isBodiless (status : Nat) : Bool := status == 101 || status == 204 || status == 304

/-- The answer that a reply gives, if it gives any. -/
def Reply.answer? : Reply → Option Answer
  | .answer a =>
    if isFinal a.status then
      some { a with body := if isBodiless a.status then .whole [] else a.body }
    else none
  | .hangUp => none

/-- The answer to a request to this URL after so many others. -/
def Network.answer? (network : Network) (n : Nat) (url : Url) : Option Answer :=
  (network.reply n url).bind Reply.answer?

/-! ## Redirects -/

/-- Whether a status says that another URL is to be asked. -/
def isRedirect (status : Nat) : Bool := [301, 302, 303, 307, 308].contains status

/-- What an answer says about where to ask. -/
inductive Direction where
  /-- This is the answer. -/
  | stay
  /-- Elsewhere, but where is no URL. -/
  | astray
  | go (url : Url)
  deriving DecidableEq

/-- Where an answer from a URL says to ask. -/
def Answer.direction (std : Standards) (url : Url) (a : Answer) : Direction :=
  if isRedirect a.status then
    match a.location.bind (std.resolve? url) with
    | none => .stay
    | some text =>
      match Url.parse? std.asciiName text with
      | none => .astray
      | some next => .go next
  else .stay

/-- What a request tells another URL of its own. -/
def Request.refererFor (r : Request) (url : Url) : Option String :=
  if url.scheme = "http" ∧ r.url.scheme = "https" then none
  else some { r.url with fragment := none }.render

/-- The request that is sent to another URL after an answer with this status. -/
def Request.redirected (r : Request) (status : Nat) (url : Url) : Request :=
  let next := { r with url, referer := r.refererFor url }
  if status = 307 ∨ status = 308 then next else { next with method := .get, body := none }

/-! ## Sending -/

/-- What comes of a request: the requests that reached somebody, in their order,
and the answer to the last one. -/
structure Delivery where
  received : List Request
  outcome : Except NetworkFault Answer

/-- A delivery that another request came before. -/
def Delivery.after (r : Request) (d : Delivery) : Delivery := { d with received := r :: d.received }

/-- Sends a request, after `n` others, and goes where the answers say, `left` times
at most. A request that is not answered is reported with the URL of the first
one. -/
def send (std : Standards) (network : Network) (first : Url) : Nat → Nat → Request → Delivery
  | left, n, r =>
    match network.answer? n r.url with
    | none =>
      ⟨if (network.reply n r.url).isSome then [r] else [], .error (.unanswered first.render)⟩
    | some a =>
      match a.direction std r.url with
      | .stay => ⟨[r], .ok a⟩
      | .astray => ⟨[r], .error (.unbuildable (some first.render))⟩
      | .go url =>
        match left with
        | 0 => ⟨[r], .error (.looping r.url.render)⟩
        | left + 1 =>
          if url.isHttp then
            (send std network first left (n + 1) (r.redirected a.status url)).after r
          else ⟨[r], .error (.unbuildable (some url.render))⟩

/-- How often a request goes elsewhere. -/
def maxRedirects : Nat := 10

end Dashboard.Client
