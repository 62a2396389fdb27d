import Dashboard.Proofs.Exchange

/-!
# The key stays where it belongs

Two clients that differ in their keys only are compared call by call.  The status is
asked for without a key, so there the two cannot be told apart at all.  For the
settings the key stands in one header of the requests and nowhere else: not in what
the call gives, be it a document or an error, not in what is logged, and not in where
the requests go.  A key that may not stand in a header keeps the request from being
sent.

## The fact the module rests on

Sending a request without its key is sending the request, with the key left out of
all that is sent (`send_withoutKey`).

## Main definitions

* `Client.Exchange.SameButKey` — two exchanges that differ in the headers of the key at
  most.
* `Client.Exchange.Withheld` — an exchange in which nothing was sent.

## Main results

* `Client.exchange_sameButKey` — a call does the same with any two keys that may be
  sent.
* `Client.key_does_not_leak` — all calls, for any two keys.
-/

namespace Dashboard.Client

open Webhook (Envelope Urls)

variable {α : Type}

/-! ## What is sent without the key -/

/-- A request without the header of the key. -/
def Request.withoutKey (r : Request) : Request := { r with apiKey := none }

/-- A delivery of requests without the header of the key. -/
def Delivery.withoutKey (d : Delivery) : Delivery :=
  { d with received := d.received.map Request.withoutKey }

@[simp] theorem url_withoutKey (r : Request) : r.withoutKey.url = r.url := rfl

/-- A redirect does not look at the key. -/
theorem redirected_withoutKey (r : Request) (status : Nat) (url : Url) :
    r.withoutKey.redirected status url = (r.redirected status url).withoutKey := by
  rw [Request.redirected, Request.redirected]
  split <;> rfl

/-- **The network is asked for the same URLs, and answers in the same way, if the key is
left out.** -/
theorem send_withoutKey (std : Standards) (network : Network) (first : Url) (left n : Nat)
    (r : Request) :
    send std network first left n r.withoutKey = (send std network first left n r).withoutKey := by
  fun_induction send std network first left n r with
  | case1 left n r unanswered =>
    rw [send, url_withoutKey, unanswered]
    cases (network.reply n r.url).isSome <;> rfl
  | case2 left n r a answered stay => simp [send, answered, stay, Delivery.withoutKey]
  | case3 left n r a answered astray => simp [send, answered, astray, Delivery.withoutKey]
  | case4 n r a answered url go => simp [send, answered, go, Delivery.withoutKey]
  | case5 n r a answered url go left http ih =>
    rw [send, url_withoutKey, answered]
    simp only [go, http, ↓reduceIte, redirected_withoutKey, ih]
    rfl
  | case6 n r a answered url go left other =>
    simp [send, answered, go, other, Delivery.withoutKey]

/-- Two requests that differ in the key at most are sent in the same way, up to the key. -/
theorem send_congr {r r' : Request} (same : r.withoutKey = r'.withoutKey) (std : Standards)
    (network : Network) (first : Url) (left n : Nat) :
    (send std network first left n r).withoutKey =
      (send std network first left n r').withoutKey := by
  rw [← send_withoutKey, ← send_withoutKey, same]

/-! ## Calls with two keys -/

namespace Exchange

/-- Whether two exchanges differ at most in the headers of the key. -/
structure SameButKey (e e' : Exchange α) : Prop where
  result : e.result = e'.result
  log : e.log = e'.log
  received : e.received.map Request.withoutKey = e'.received.map Request.withoutKey

/-- Whether nothing was sent in an exchange, which is reported as a fault of the
network. -/
structure Withheld (e : Exchange α) : Prop where
  result : ∃ fault, e.result = .error (.network fault)
  received : e.received = []

end Exchange

section TwoKeys

variable {std : Standards} {c c' : Config}

theorem address_congr (base : c.baseUrl = c'.baseUrl) (call : Call) :
    address c call = address c' call := by
  have url (path : String) : c.url path = c'.url path := by rw [Config.url, Config.url, base]
  cases call with
  | fetchStatus => exact url statusPath
  | fetchSettings => exact url settingsPath
  | saveSettings urls => exact url settingsPath

theorem callLine_congr (base : c.baseUrl = c'.baseUrl) (call : Call) :
    callLine c call = callLine c' call := by
  simp only [callLine, address_congr base]

theorem destination_congr (base : c.baseUrl = c'.baseUrl) (call : Call) :
    destination std c call = destination std c' call := by
  rw [destination, destination, address_congr base]

theorem withoutKey_request (c c' : Config) (url : Url) (call : Call) :
    (request c url call).withoutKey = (request c' url call).withoutKey := by
  cases call <;> rfl

/-- A call does the same with any two keys that may be sent. -/
theorem exchange_sameButKey (base : c.baseUrl = c'.baseUrl) (network : Network) {call : Call}
    (read : Transfer → Except ApiError α) (sendable : Sendable c call)
    (sendable' : Sendable c' call) :
    (exchange std c network call read).SameButKey (exchange std c' network call read) := by
  rw [exchange, exchange, prepare_of_sendable sendable, prepare_of_sendable sendable',
    callLine_congr base, destination_congr base]
  cases destination std c' call with
  | error fault => exact ⟨rfl, rfl, rfl⟩
  | ok url =>
    have sent := send_congr (withoutKey_request c c' url call) std network url maxRedirects 0
    have outcomes := congrArg Delivery.outcome sent
    simp only [Delivery.withoutKey] at outcomes
    simp only [Except.map, url_request]
    exact ⟨by simp only [outcomes], rfl, congrArg Delivery.received sent⟩

/-- The status is asked for in the same way with any two keys. -/
theorem fetchStatus_congr (base : c.baseUrl = c'.baseUrl) (network : Network) :
    fetchStatus std c network = fetchStatus std c' network := by
  have prepared : prepare std c .fetchStatus = prepare std c' .fetchStatus := by
    rw [prepare, prepare, address_congr base]
    rfl
  rw [fetchStatus, fetchStatus, exchange, exchange, prepared, callLine_congr base]

end TwoKeys

/-- A call whose key may not be sent sends nothing. -/
theorem exchange_withheld {c : Config} {call : Call} (no : ¬ Sendable c call) (std : Standards)
    (network : Network) (read : Transfer → Except ApiError α) :
    (exchange std c network call read).Withheld := by
  obtain ⟨fault, eq⟩ : ∃ fault, prepare std c call = .error fault := prepare_of_not_sendable no
  rw [exchange, eq]
  exact ⟨⟨fault, rfl⟩, rfl⟩

theorem sendable_fetchSettings {c : Config} :
    Sendable c .fetchSettings ↔ IsHeaderBytes c.apiKey := by
  rw [Sendable, isHeaderValue_iff, or_iff_right]
  intro eq
  cases eq

theorem sendable_saveSettings {c : Config} {urls : Urls} :
    Sendable c (.saveSettings urls) ↔ IsHeaderBytes c.apiKey := by
  rw [Sendable, isHeaderValue_iff, or_iff_right]
  intro eq
  cases eq

/-- For any base URL, any network with whatever it replies to the requests, and any two
keys: the status is fetched in the same way with both; the settings are fetched and
saved alike up to the headers of the key if both keys are header values; and with a key
that is none nothing is sent for them. -/
theorem key_does_not_leak (std : Standards) (baseUrl key key' : Option String)
    (network : Network) (urls : Urls) :
    fetchStatus std (.resolve baseUrl key) network =
      fetchStatus std (.resolve baseUrl key') network ∧
    (IsHeaderBytes (Config.resolve baseUrl key).apiKey →
      IsHeaderBytes (Config.resolve baseUrl key').apiKey →
      (fetchSettings std (.resolve baseUrl key) network).SameButKey
        (fetchSettings std (.resolve baseUrl key') network) ∧
      (saveSettings std (.resolve baseUrl key) network urls).SameButKey
        (saveSettings std (.resolve baseUrl key') network urls)) ∧
    (¬ IsHeaderBytes (Config.resolve baseUrl key).apiKey →
      (fetchSettings std (.resolve baseUrl key) network).Withheld ∧
      (saveSettings std (.resolve baseUrl key) network urls).Withheld) := by
  have base : (Config.resolve baseUrl key).baseUrl = (Config.resolve baseUrl key').baseUrl := rfl
  refine ⟨fetchStatus_congr base network, fun valid valid' => ⟨?_, ?_⟩, fun no => ⟨?_, ?_⟩⟩
  · exact exchange_sameButKey base network _ (sendable_fetchSettings.2 valid)
      (sendable_fetchSettings.2 valid')
  · exact exchange_sameButKey base network _ (sendable_saveSettings.2 valid)
      (sendable_saveSettings.2 valid')
  · exact exchange_withheld (fun sendable => no (sendable_fetchSettings.1 sendable)) std network _
  · exact exchange_withheld (fun sendable => no (sendable_saveSettings.1 sendable)) std network _

/-- Two keys that are header values, where a redirect leads to an answer that breaks
off, and a key that is none. -/
theorem key_does_not_leak_rejected :
    let network : Network := ⟨fun n _ => some (.answer <|
      if n = 0 then ⟨307, some "http://i/", none, .whole []⟩
      else ⟨401, none, none, .broken "end of file"⟩)⟩
    (fetchSettings .plain (.resolve (some "http://h/api") (some "one")) network).SameButKey
        (fetchSettings .plain (.resolve (some "http://h/api") (some " two\t")) network) ∧
      (saveSettings .plain (.resolve (some "http://h/api") (some "one\ntwo")) network
        .empty).Withheld := by
  intro network
  have valid : IsHeaderBytes (Config.resolve (some "http://h/api") (some "one")).apiKey :=
    (isHeaderValue_iff _).1 (by decide +kernel)
  have valid' : IsHeaderBytes (Config.resolve (some "http://h/api") (some " two\t")).apiKey :=
    (isHeaderValue_iff _).1 (by decide +kernel)
  have no : ¬ IsHeaderBytes (Config.resolve (some "http://h/api") (some "one\ntwo")).apiKey :=
    fun valid => absurd ((isHeaderValue_iff _).2 valid) (by decide +kernel)
  exact ⟨((key_does_not_leak .plain _ _ _ network .empty).2.1 valid valid').1,
    ((key_does_not_leak .plain _ _ none network .empty).2.2 no).2⟩

end Dashboard.Client
