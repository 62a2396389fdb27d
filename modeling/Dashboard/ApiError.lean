import Dashboard.Log

/-!
# Failures of the backend

Why a call to the backend gave no result, with the text that is shown and
the HTTP status that belongs to it.

## Main definitions

* `ApiError` — the causes.
* `ApiError.describe`, `ApiError.status?` — text and status.
-/

namespace Dashboard

/-- The registered phrase of an HTTP error status. -/
def statusPhrase? : Nat → Option String
  | 400 => some "Bad Request"
  | 401 => some "Unauthorized"
  | 402 => some "Payment Required"
  | 403 => some "Forbidden"
  | 404 => some "Not Found"
  | 405 => some "Method Not Allowed"
  | 406 => some "Not Acceptable"
  | 407 => some "Proxy Authentication Required"
  | 408 => some "Request Timeout"
  | 409 => some "Conflict"
  | 410 => some "Gone"
  | 411 => some "Length Required"
  | 412 => some "Precondition Failed"
  | 413 => some "Payload Too Large"
  | 414 => some "URI Too Long"
  | 415 => some "Unsupported Media Type"
  | 416 => some "Range Not Satisfiable"
  | 417 => some "Expectation Failed"
  | 418 => some "I'm a teapot"
  | 421 => some "Misdirected Request"
  | 422 => some "Unprocessable Entity"
  | 423 => some "Locked"
  | 424 => some "Failed Dependency"
  | 425 => some "Too Early"
  | 426 => some "Upgrade Required"
  | 428 => some "Precondition Required"
  | 429 => some "Too Many Requests"
  | 431 => some "Request Header Fields Too Large"
  | 451 => some "Unavailable For Legal Reasons"
  | 500 => some "Internal Server Error"
  | 501 => some "Not Implemented"
  | 502 => some "Bad Gateway"
  | 503 => some "Service Unavailable"
  | 504 => some "Gateway Timeout"
  | 505 => some "HTTP Version Not Supported"
  | 506 => some "Variant Also Negotiates"
  | 507 => some "Insufficient Storage"
  | 508 => some "Loop Detected"
  | 510 => some "Not Extended"
  | 511 => some "Network Authentication Required"
  | _ => none

/-- Why no answer came over the network, or not all of it. -/
inductive NetworkFault where
  /-- The request could not be built; the URL is shown if there is one. -/
  | unbuildable (url : Option String)
  /-- The request was sent and nothing came back. -/
  | unanswered (url : String)
  /-- Each answer named another URL, and this one was the last to be asked. -/
  | looping (url : String)
  /-- The body of the answer broke off. -/
  | interrupted (reason : String)
  /-- An error status was reported in place of an answer. -/
  | status (code : Nat)
  deriving DecidableEq

/-- The wording of a network fault. -/
def NetworkFault.describe : NetworkFault → String
  | .unbuildable none => "builder error"
  | .unbuildable (some url) => "builder error for url (" ++ url ++ ")"
  | .unanswered url => "error sending request for url (" ++ url ++ ")"
  | .looping url => "error following redirect for url (" ++ url ++ ")"
  | .interrupted reason => reason
  | .status code =>
    (if code < 500 then "HTTP status client error (" else "HTTP status server error (") ++
      toString code ++ " " ++ (statusPhrase? code).getD "<unknown status code>" ++ ")"

/-- Why a call to the backend gave no result. -/
inductive ApiError where
  | keyMissing
  | network (fault : NetworkFault)
  /-- The server answered with a status that is no success. -/
  | rejected (status : Nat) (body : String)
  /-- The body of the answer is not the wanted document. -/
  | undecodable (reason : String)
  deriving DecidableEq

namespace ApiError

/-- The text of a failure. -/
def describe : ApiError → String
  | .keyMissing => "API key is not configured"
  | .network fault => "Request failed: " ++ fault.describe
  | .rejected status _ => "Request failed with status " ++ toString status
  | .undecodable reason => "Unexpected response body: " ++ reason

/-- The HTTP status that belongs to a failure. -/
def status? : ApiError → Option Nat
  | .rejected status _ => some status
  | .network (.status code) => some code
  | _ => none

/-- The field for the status in a line of the log. -/
def statusField (e : ApiError) : String × String :=
  ("status", match e.status? with
    | some status => "Some(" ++ toString status ++ ")"
    | none => "None")

/-- The field for the text in a line of the log. -/
def errorField (e : ApiError) : String × String := ("error", e.describe)

end ApiError

end Dashboard
