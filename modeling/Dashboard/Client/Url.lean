import Dashboard.Client.Host

/-!
# URLs

An absolute URL is taken apart as a browser does it: the scheme decides what
slashes mean, dot segments are resolved, and characters that may not stand
in a part are percent-encoded there. What is encoded already stays as it is.

## Main definitions

* `Url`, `Url.parse?` — the parts of an absolute URL.
* `Url.render`, `Url.target` — the whole URL, and what of it is requested.
-/

namespace Dashboard.Client

/-- The parts of an absolute URL. Path, query and fragment are encoded. -/
structure Url where
  scheme : String
  /-- Nothing if the URL names no host. -/
  host : Option String
  /-- Nothing if it is the usual one of the scheme. -/
  port : Option Nat
  path : String
  query : Option String
  fragment : Option String
  deriving DecidableEq

namespace Url

open Host (encode)

/-! ## Encoding -/

/-- What is encoded in a fragment, in a path and in a query. -/
def reservedInFragment : List Char := [' ', '"', '<', '>', '`']
def reservedInPath : List Char := ['#', '?', '\x7b', '\x7d'] ++ reservedInFragment
def reservedInQuery : List Char := [' ', '"', '#', '<', '>']

/-! ## Scheme -/

/-- The schemes in whose URLs a host is required and a backslash is a slash,
with their usual ports. -/
def usualPort : List (String × Nat) :=
  [("http", 80), ("https", 443), ("ws", 80), ("wss", 443), ("ftp", 21)]

/-- Whether a scheme is one of these. -/
def isSpecial (scheme : String) : Bool := usualPort.any (·.1 == scheme)

/-- Splits off the scheme, in lower case, and its colon. -/
def splitScheme? (cs : List Char) : Option (String × List Char) :=
  let scheme := cs.takeWhile fun c => c.isAlphanum || c == '+' || c == '-' || c == '.'
  match scheme, cs.drop scheme.length with
  | first :: _, ':' :: rest =>
    if first.isAlpha then some (String.ofList (scheme.map Char.toLower), rest) else none
  | _, _ => none

/-! ## Host and port -/

/-- A port, if it is a number below 65536; an empty one is the usual one. -/
def port? (scheme : String) (digits : List Char) : Option (Option Nat) :=
  if digits = [] then some none
  else if digits.all Char.isDigit then
    let n := digits.foldl (fun n c => 10 * n + (c.toNat - '0'.toNat)) 0
    if 65535 < n then none
    else if (scheme, n) ∈ usualPort then some none
    else some (some n)
  else none

/-- Splits off the host. The colons inside of brackets belong to it, which
`bracketed` tells of. -/
def splitHost (bracketed : Bool) : List Char → List Char × List Char
  | [] => ([], [])
  | c :: rest =>
    if c = ':' ∧ !bracketed then ([], c :: rest)
    else
      let (host, port) := splitHost (c == '[' || bracketed && c != ']') rest
      (c :: host, port)

/-- Host and port of the text between the slashes and the path. A name and
password in front of them are dropped. -/
def authority? (rule : NameRule) (scheme : String) (cs : List Char) :
    Option (String × Option Nat) := do
  let place := (cs.reverse.takeWhile (· != '@')).reverse
  let (host, colonAndPort) := splitHost false place
  let port ← port? scheme (colonAndPort.drop 1)
  if host = [] then none
  else do
    let host ← Host.parse? rule (isSpecial scheme) host
    some (host, port)

/-! ## Path -/

/-- A segment with the dots in it that are percent-encoded spelled out. -/
def spellDots : List Char → List Char
  | '%' :: '2' :: e :: rest =>
    if e = 'e' ∨ e = 'E' then '.' :: spellDots rest else '%' :: '2' :: e :: spellDots rest
  | c :: rest => c :: spellDots rest
  | [] => []

/-- Resolves dot segments. A dot segment at the end leaves an empty one;
`done` are the segments before, the last one first. -/
def resolveDots (done : List (List Char)) : List (List Char) → List (List Char)
  | [] => done.reverse
  | segment :: rest =>
    let finish (done : List (List Char)) := if rest = [] then [] :: done else done
    if spellDots segment = ['.', '.'] then resolveDots (finish done.tail) rest
    else if spellDots segment = ['.'] then resolveDots (finish done) rest
    else resolveDots (segment :: done) rest

/-- The path of a text that is empty or begins with a slash. -/
def absolutePath (cs : List Char) : String :=
  let resolved := resolveDots [] (Host.cut '/' (cs.drop 1))
  "".intercalate (resolved.map fun segment => "/" ++ encode reservedInPath segment)

/-! ## The whole URL -/

/-- The characters without what may not stand in a URL at all: control
characters and spaces at the ends, line ends and tabs anywhere. -/
def clean (text : String) : List Char :=
  let outside (c : Char) : Bool := c.toNat ≤ 0x20
  let inner := (text.toList.dropWhile outside).reverse.dropWhile outside |>.reverse
  inner.filter fun c => c != '\t' && c != '\n' && c != '\r'

/-- Splits a text in front of the first character that `p` picks. -/
def splitBefore (p : Char → Bool) (cs : List Char) : List Char × List Char :=
  (cs.takeWhile fun c => !p c, cs.dropWhile fun c => !p c)

/-- The parts of an absolute URL; a text without a scheme, or without a host
where one is required, is none. -/
def parse? (rule : NameRule) (text : String) : Option Url := do
  let (scheme, rest) ← splitScheme? (clean text)
  let special := isSpecial scheme
  let (beforeFragment, fragment) := splitBefore (· == '#') rest
  let (beforeQuery, query) := splitBefore (· == '?') beforeFragment
  let quote := if special then ['\''] else []
  let make (host : Option String) (port : Option Nat) (path : String) : Url :=
    { scheme, host, port, path
      query := if query = [] then none else some (encode (quote ++ reservedInQuery) query.tail)
      fragment :=
        if fragment = [] then none else some (encode reservedInFragment fragment.tail) }
  let slashed := beforeQuery.map fun c => if special && c == '\\' then '/' else c
  if special then do
    let (place, path) := splitBefore (· == '/') (slashed.dropWhile (· == '/'))
    let (host, port) ← authority? rule scheme place
    some (make (some host) port (absolutePath path))
  else match slashed with
    | '/' :: '/' :: afterSlashes => do
      let (place, path) := splitBefore (· == '/') afterSlashes
      if place = [] then some (make none none ("//" ++ if path = [] then "" else absolutePath path))
      else do
        let (host, port) ← authority? rule scheme place
        some (make (some host) port (if path = [] then "" else absolutePath path))
    | '/' :: _ => some (make none none (absolutePath slashed))
    | _ => some (make none none (encode [] slashed))

/-- Whether a request can be sent by the scheme of the URL. -/
def isHttp (u : Url) : Bool := u.scheme == "http" || u.scheme == "https"

/-- Host and port, where the port is shown only if it is not the usual
one. -/
def place (u : Url) : String :=
  u.host.getD "" ++ match u.port with
    | some port => ":" ++ toString port
    | none => ""

/-- Scheme, host and port. -/
def origin (u : Url) : String := u.scheme ++ "://" ++ u.place

/-- Path and query, which is what is requested of the host. -/
def target (u : Url) : String :=
  u.path ++ match u.query with
    | some query => "?" ++ query
    | none => ""

/-- The whole URL. -/
def render (u : Url) : String :=
  (if u.host.isSome then u.origin else u.scheme ++ ":") ++ u.target ++ match u.fragment with
    | some fragment => "#" ++ fragment
    | none => ""

/-- What may stand in a host, but not in the host of a request. -/
def unsendable : List Char := ['"', '`', '\x7b', '\x7d']

/-- Whether a request can name the URL, which may also be too long for one. -/
def isSendable (u : Url) : Bool :=
  u.render.utf8ByteSize < 65535 && (u.host.getD "").toList.all fun c => !unsendable.contains c

end Url

end Dashboard.Client
