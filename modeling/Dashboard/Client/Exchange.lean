import Dashboard.Client.Network
import Dashboard.ServerStatus
import Dashboard.Text.ByteOrderMark

/-!
# Exchanges with the backend

One call of the backend: the requests that are sent for it, and what is made
of the answer.

## How much of a body is needed

What is asked for has to arrive in full. The body of a rejected answer is only
shown, so that a part of it is shown as nothing. A save reads no body.

## Main definitions

* `Answer.text`, `Client.accept` — what an answer comes to.
* `Client.fetchStatus`, `Client.fetchSettings`, `Client.saveSettings`.
-/

namespace Dashboard.Client

open Webhook (Envelope Urls)

/-- Whether a status means success. -/
def isSuccess (status : Nat) : Bool := 200 ≤ status && status ≤ 299

/-- The body of an answer as text. -/
def Answer.text (std : Standards) (a : Answer) : String :=
  match a.body with
  | .whole body => Text.ofBodyIn ((a.charset.bind std.encoding?).getD Utf8.lossy) body
  | .broken _ => ""

/-- The body of a successful answer, or the failure of another one. -/
def accept (std : Standards) (a : Answer) : Except ApiError Transfer :=
  if isSuccess a.status then .ok a.body else .error (.rejected a.status (a.text std))

/-! ## Calls -/

/-- A call: the requests that reached somebody, what the call gave, and the
lines it logged. -/
structure Exchange (α : Type) where
  received : List Request
  result : Except ApiError α
  log : List LogLine

/-- Makes a call and reads the body of a successful answer. -/
def exchange {α : Type} (std : Standards) (config : Config) (network : Network) (call : Call)
    (read : Transfer → Except ApiError α) : Exchange α :=
  let log := [callLine config call]
  match prepare std config call with
  | .error fault => ⟨[], .error (.network fault), log⟩
  | .ok r =>
    let d := send std network r.url maxRedirects 0 r
    ⟨d.received, d.outcome.mapError .network >>= accept std >>= read, log⟩

/-- The document that a body holds, or the failure for a body that does not
hold it. -/
def document {α : Type} (decode : Bytes → Except Json.Failure α) (body : Bytes) :
    Except ApiError α :=
  match decode body with
  | .ok x => .ok x
  | .error failure => .error (.undecodable (failure.describe body))

/-- The document that arrives in a body, or why there is none. -/
def Transfer.document {α : Type} (decode : Bytes → Except Json.Failure α) :
    Transfer → Except ApiError α
  | .whole body => Client.document decode body
  | .broken reason => .error (.network (.interrupted reason))

/-- Asks for the server status. The key is not sent. -/
def fetchStatus (std : Standards) (config : Config) (network : Network) : Exchange ServerStatus :=
  exchange std config network .fetchStatus (Transfer.document ServerStatus.decode)

/-- Asks for the stored settings. -/
def fetchSettings (std : Standards) (config : Config) (network : Network) : Exchange Envelope :=
  exchange std config network .fetchSettings (Transfer.document Envelope.decode)

/-- Stores the URLs. What comes with a success is not read. -/
def saveSettings (std : Standards) (config : Config) (network : Network) (urls : Urls) :
    Exchange Unit :=
  exchange std config network (.saveSettings urls) fun _ => .ok ()

end Dashboard.Client
