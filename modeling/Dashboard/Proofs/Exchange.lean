import Dashboard.Client.Exchange
import Dashboard.Proofs.Sending
import Dashboard.Proofs.Utf8

/-!
# Requests and replies

What a call sends is settled before anything is sent: its URL by the base URL of the
configuration, and whether its key may be sent by the key alone.  What comes back
depends on the URLs only, so two calls to one URL differ in nothing but what is put
into their requests.

## Main definitions

* `Client.destination` — the URL of a call, or why nothing can be sent to it.
* `Client.Sendable` — whether the key does not stand in the way of a call.

## Main results

* `Client.prepare_of_sendable`, `Client.prepare_of_not_sendable` — what is sent.
* `Client.forall_received_exchange`, `Client.eq_request_of_head?` — what reaches anybody.
-/

namespace Dashboard.Client

variable {α : Type} {std : Standards} {config : Config} {network : Network} {call : Call}

/-- The URL of a call, or why nothing can be sent to it whatever the key is. -/
def destination (std : Standards) (config : Config) (call : Call) : Except NetworkFault Url :=
  match Url.parse? std.asciiName (address config call) with
  | none => .error (.unbuildable none)
  | some url =>
    if url.host.isNone then .error (.unbuildable (some url.render))
    else if !(url.isHttp && url.isSendable) then .error (.unbuildable (some url.render))
    else .ok url

/-- Whether the key does not stand in the way of a call: it is not sent, or it may
stand in a header. -/
def Sendable (config : Config) (call : Call) : Prop :=
  call = .fetchStatus ∨ isHeaderValue config.apiKey = true

theorem apiKey_request (sendable : Sendable config call) (url : Url) :
    (request config url call).apiKey.all isHeaderValue = true := by
  rcases sendable with rfl | valid
  · rfl
  · cases call <;> first | rfl | exact valid

theorem url_request (config : Config) (url : Url) (call : Call) :
    (request config url call).url = url := by
  cases call <;> rfl

theorem prepare_of_sendable (sendable : Sendable config call) :
    prepare std config call = (destination std config call).map (request config · call) := by
  rw [prepare, destination]
  cases Url.parse? std.asciiName (address config call) with
  | none => rfl
  | some url =>
    simp only [apiKey_request sendable, Bool.not_true, Bool.false_eq_true, ↓reduceIte]
    split
    · rfl
    split <;> rfl

theorem prepare_of_not_sendable (no : ¬ Sendable config call) :
    ∃ fault, prepare std config call = .error fault := by
  have refused (url : Url) : (request config url call).apiKey.all isHeaderValue = false := by
    rw [Sendable, not_or, Bool.not_eq_true] at no
    cases call with
    | fetchStatus => exact absurd rfl no.1
    | fetchSettings => exact no.2
    | saveSettings urls => exact no.2
  rw [prepare]
  split
  · exact ⟨_, rfl⟩
  · next url _ =>
    simp only [refused, Bool.not_false, ↓reduceIte]
    split <;> exact ⟨_, rfl⟩

/-- A request that is built is the request of the call. -/
theorem eq_request_of_prepare {r : Request} (prepared : prepare std config call = .ok r) :
    r = request config r.url call := by
  rw [prepare] at prepared
  split at prepared
  · cases prepared
  · next url _ =>
    simp only at prepared
    split at prepared
    · cases prepared
    split at prepared
    · cases prepared
    split at prepared
    · cases prepared
    · cases prepared
      rw [url_request]

section Received

variable {read : Transfer → Except ApiError α}

/-- What reaches anybody is what is sent for the request of the call. -/
theorem received_cases (std : Standards) (config : Config) (network : Network) (call : Call)
    (read : Transfer → Except ApiError α) :
    (exchange std config network call read).received = [] ∨
    ∃ url, (exchange std config network call read).received =
      (send std network url maxRedirects 0 (request config url call)).received := by
  rw [exchange]
  cases prepared : prepare std config call with
  | error fault => exact .inl rfl
  | ok r => exact .inr ⟨r.url, by rw [← eq_request_of_prepare prepared]⟩

/-- What holds of the request of the call and is kept by redirects holds of all that
reaches anybody. -/
theorem forall_received_exchange {P : Request → Prop} (start : ∀ url, P (request config url call))
    (kept : ∀ r status url, P r → P (r.redirected status url)) :
    ∀ r ∈ (exchange std config network call read).received, P r := by
  rcases received_cases std config network call read with none | ⟨url, sent⟩
  · simp [none]
  · exact sent ▸ forall_received (start url) kept

/-- The first request that reaches anybody is the request of the call. -/
theorem eq_request_of_head? {r : Request}
    (received : (exchange std config network call read).received.head? = some r) :
    ∃ url, r = request config url call := by
  rcases received_cases std config network call read with none | ⟨url, sent⟩
  · simp [none] at received
  · exact ⟨url, eq_of_head?_received (sent ▸ received)⟩

end Received

/-! ## Keys as bytes -/

/-- Whether the bytes of a text are those of a header value: no control character but
the tab. -/
def IsHeaderBytes (text : String) : Prop :=
  ∀ b ∈ Utf8.encode text, (0x20 ≤ b ∨ b = 0x09) ∧ b ≠ 0x7F

theorem isHeaderValue_iff (text : String) : isHeaderValue text = true ↔ IsHeaderBytes text := by
  have high (b : UInt8) (high : 0x80 ≤ b) : (0x20 ≤ b ∨ b = 0x09) ∧ b ≠ 0x7F := by
    rw [UInt8.le_iff_toNat_le] at high
    refine ⟨.inl (UInt8.le_iff_toNat_le.2 (Nat.le_trans (by decide) high)), ?_⟩
    rintro rfl
    exact absurd high (by decide)
  refine Iff.trans ?_ (Utf8.forall_mem_bytes high text.toList).symm
  rw [isHeaderValue, List.all_eq_true]
  refine forall_congr' fun c => imp_congr_right fun _ => ?_
  by_cases ascii : c.toNat < 0x80
  · rw [forall_prop_of_true ascii]
    exact Utf8.forall_ascii
      (P := fun c => (c == '\t' || (0x20 ≤ c.toNat && c.toNat != 0x7F)) = true ↔
        (0x20 ≤ UInt8.ofNat c.toNat ∨ UInt8.ofNat c.toNat = 0x09) ∧ UInt8.ofNat c.toNat ≠ 0x7F)
      (by decide +kernel) ascii
  · refine iff_of_true ?_ fun low => absurd low ascii
    simp only [Bool.or_eq_true, Bool.and_eq_true, decide_eq_true_eq, bne_iff_ne]
    exact .inr ⟨by omega, by omega⟩

end Dashboard.Client
