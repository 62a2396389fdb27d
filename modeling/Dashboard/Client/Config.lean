import Dashboard.Text.Blank

/-!
# The configuration of the client

Where the backend is and which key to show it, from what was typed or set,
which may be missing, blank or end in a slash.

## Main definitions

* `Client.Config`, `Client.Config.resolve` — base URL and key.
* `Client.Config.url` — a path below the base URL.
-/

namespace Dashboard.Client

/-- Where the backend is when nothing else is said. -/
def defaultBaseUrl : String := "/api"

/-- Where the backend is, and the key to show it. -/
structure Config where
  baseUrl : String
  /-- Empty if there is no key. -/
  apiKey : String
  deriving DecidableEq

namespace Config

/-- The characters without one slash at their end, if there is one. -/
def dropSlash (cs : List Char) : List Char :=
  if cs.getLast? = some '/' then cs.dropLast else cs

/-- The configuration for what was typed or set. One slash at the end of the
base URL is dropped, and what is then empty is replaced by the default;
blanks around the key are dropped. -/
def resolve (baseUrl apiKey : Option String) : Config where
  baseUrl :=
    let base := dropSlash (baseUrl.getD defaultBaseUrl).toList
    if base = [] then defaultBaseUrl else String.ofList base
  apiKey := Text.trim (apiKey.getD "")

/-- Whether there is a key. -/
def hasKey (c : Config) : Bool := c.apiKey ≠ ""

/-- A path below the base URL. One slash in front of the path is dropped, and
one is put between the two. -/
def url (c : Config) (path : String) : String :=
  let relative := match path.toList with
    | '/' :: rest => rest
    | cs => cs
  c.baseUrl ++ "/" ++ String.ofList relative

end Config

end Dashboard.Client
