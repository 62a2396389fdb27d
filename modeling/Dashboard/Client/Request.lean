import Dashboard.ApiError
import Dashboard.Client.Config
import Dashboard.Client.Url
import Dashboard.Webhook.Document

/-!
# Requests

What is sent for a call of the backend, or why nothing is.

## Which fault comes first

A URL that is none, or names no host, is found before the key is looked at;
a key that may not stand in a header is found before the scheme of the URL
and before what a request cannot name.

## Main definitions

* `Standards` — what is laid down elsewhere.
* `Call`, `Request` — what is asked and what is sent.
* `Client.prepare` — the request of a call, or why there is none.
-/

namespace Dashboard.Client

open Webhook (Urls)

/-- The rules and tables that are laid down elsewhere and that this library
takes as they are. -/
structure Standards where
  /-- The ASCII form of the name of a host. -/
  asciiName : NameRule
  /-- What a reference says that stands in an answer from a URL: an absolute
  URL, if it is a reference. -/
  resolve? : Url → String → Option String
  /-- How the encoding of this name is read. -/
  encoding? : String → Option (Bytes → String)

/-- As much as needs no table: names in ASCII, references that are URLs, and no
encoding but the usual one. -/
def Standards.plain : Standards where
  asciiName name :=
    if name.all fun c => c.toNat < 0x80 then some (name.map Char.toLower) else none
  resolve? _ reference :=
    if (Url.splitScheme? reference.toList).isSome then some reference else none
  encoding? _ := none

/-- What the backend can be asked for. -/
inductive Call where
  | fetchStatus
  | fetchSettings
  | saveSettings (urls : Urls)
  deriving DecidableEq

/-- How a resource is addressed. -/
inductive Method where
  | get
  | post
  deriving DecidableEq

/-- A request, as far as the backend looks at it. -/
structure Request where
  method : Method
  url : Url
  /-- The header that holds the key. -/
  apiKey : Option String
  /-- Whether an answer from a cache is refused. -/
  noCache : Bool
  /-- A JSON document. -/
  body : Option Bytes
  /-- The URL that this one was named by. -/
  referer : Option String
  deriving DecidableEq

/-- The headers of a request that the backend looks at, with their names in lower
case. -/
def Request.headers (r : Request) : List (String × String) :=
  (r.apiKey.map fun key => ("x-api-key", key)).toList ++
    (if r.noCache then [("cache-control", "no-cache")] else []) ++
      (match r.body with
        | none => []
        | some body =>
          [("content-type", "application/json"), ("content-length", toString body.length)]) ++
        (r.referer.map fun url => ("referer", url)).toList

/-- The path of the status and the path of the settings. -/
def statusPath : String := "/v1/config/public"
def settingsPath : String := "/v1/system/settings"

/-- The URL that a call is sent to, as text. -/
def address (config : Config) : Call → String
  | .fetchStatus => config.url statusPath
  | _ => config.url settingsPath

/-- The line logged before a call. -/
def callLine (config : Config) (call : Call) : LogLine :=
  ⟨.debug,
    match call with
    | .fetchStatus => "fetching public config"
    | .fetchSettings => "fetching system settings"
    | .saveSettings _ => "saving system settings",
    [("url", address config call)]⟩

/-- Whether a text may be the value of a header: it holds no control
character but the tab. -/
def isHeaderValue (text : String) : Bool :=
  text.toList.all fun c => c == '\t' || (0x20 ≤ c.toNat && c.toNat != 0x7F)

/-- The request of a call to a URL. -/
def request (config : Config) (url : Url) (call : Call) : Request :=
  let plain : Request := ⟨.get, url, none, false, none, none⟩
  match call with
  | .fetchStatus => { plain with noCache := true }
  | .fetchSettings => { plain with apiKey := some config.apiKey }
  | .saveSettings urls =>
    { plain with method := .post, apiKey := some config.apiKey, body := some urls.body }

/-- The request of a call, or why it cannot be built. -/
def prepare (std : Standards) (config : Config) (call : Call) : Except NetworkFault Request :=
  match Url.parse? std.asciiName (address config call) with
  | none => .error (.unbuildable none)
  | some url =>
    let r := request config url call
    if url.host.isNone then .error (.unbuildable (some url.render))
    else if !(r.apiKey.all isHeaderValue) then .error (.unbuildable none)
    else if !(url.isHttp && url.isSendable) then .error (.unbuildable (some url.render))
    else .ok r

end Dashboard.Client
