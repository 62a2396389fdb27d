import Dashboard.Proofs.Body
import Dashboard.Proofs.Exchange

/-!
# What a call makes of an answer

A call whose request can be built goes where the answers to it lead, and the answer at
the end alone settles what it gives.  Without such an answer the network is at fault.
A status that is no success is rejected with this status, whatever the body is and
whether all of it arrives.  For a success it depends on the call.  What is asked for
has to arrive in full, or the network is at fault again, and is then read as the
wanted document or is undecodable.  A save reads no body, so it is done by each
success.

## Main definitions

* `Client.Successful` — the statuses of a success.
* `Client.Ending` — the endings of a call.
* `Client.Refused`, `Client.Fetched`, `Client.Saved` — the exact condition of each result.

## Main results

* `Client.exchange_ending` — a call ends as its answer says.
* `Client.Ending.fetched`, `Client.Ending.saved` — the conditions, for either kind of call.
* `Client.answer_settles_result` — all calls, for each configuration and network.
* `Client.broken_moved_or_bodiless` — where the status and the bytes that are sent do not
  settle the result.
-/

namespace Dashboard.Client

open Webhook (Envelope Urls)

variable {α : Type} {std : Standards} {answers : Answer → Prop}
  {read : Transfer → Except ApiError α} {result : Except ApiError α}

/-! ## One answer -/

/-- Whether a status means success. -/
def Successful (status : Nat) : Prop := 200 ≤ status ∧ status ≤ 299

instance (status : Nat) : Decidable (Successful status) := inferInstanceAs (Decidable (_ ∧ _))

/-- A text is kept, but for a byte order mark. -/
theorem text_of_bytes {a : Answer} {cs : List Char} (whole : a.body = .whole (Utf8.bytes cs))
    (usual : a.charset.bind std.encoding? = none) :
    a.text std = String.ofList (Text.withoutMark cs) := by
  rw [Answer.text, whole, usual]
  exact Text.ofBodyIn_bytes cs

/-- Nothing is left of a text that breaks off. -/
theorem text_of_broken {a : Answer} {reason : String} (broken : a.body = .broken reason) :
    a.text std = "" := by
  rw [Answer.text, broken]

/-! ## Endings -/

/-- The endings of a call, where `answers` says which answer it got in the end and
`read` is what it does with the body of a success. -/
inductive Ending (std : Standards) (answers : Answer → Prop)
    (read : Transfer → Except ApiError α) : Except ApiError α → Prop
  | unanswered {fault : NetworkFault} : (∀ a, ¬ answers a) →
      (ApiError.network fault).status? = none → Ending std answers read (.error (.network fault))
  | rejected {a : Answer} : answers a → ¬ Successful a.status →
      Ending std answers read (.error (.rejected a.status (a.text std)))
  | done {a : Answer} {result : Except ApiError α} : answers a → Successful a.status →
      read a.body = result → Ending std answers read result

/-- What a call makes of answers that are no success. -/
structure Refused (std : Standards) (answers : Answer → Prop) (result : Except ApiError α) :
    Prop where
  /-- Each status that is no success is rejected, with the text of the body. -/
  rejected (status : Nat) (text : String) : result = .error (.rejected status text) ↔
    ∃ a, answers a ∧ ¬ Successful a.status ∧ a.status = status ∧ a.text std = text
  /-- A rejected text is kept, but for a byte order mark. -/
  kept (a : Answer) (cs : List Char) : answers a → ¬ Successful a.status →
    a.body = .whole (Utf8.bytes cs) → a.charset.bind std.encoding? = none →
    result = .error (.rejected a.status (String.ofList (Text.withoutMark cs)))
  /-- A rejected text that breaks off is shown as none. -/
  broken (a : Answer) (reason : String) : answers a → ¬ Successful a.status →
    a.body = .broken reason → result = .error (.rejected a.status "")
  /-- No call finds that the key is missing. -/
  keyMissing : result ≠ .error .keyMissing
  /-- The status of a failure is that of a rejected answer. -/
  status (n : Nat) : (∃ e, result = .error e ∧ e.status? = some n) ↔
    ∃ a, answers a ∧ ¬ Successful a.status ∧ a.status = n

/-- The results of a call that asks for a document, each with the exact condition for
it. -/
structure Fetched (std : Standards) (answers : Answer → Prop)
    (decode : Bytes → Except Json.Failure α) (result : Except ApiError α) : Prop
    extends Refused std answers result where
  /-- The call gives what the whole body of a success says. -/
  ok (x : α) : result = .ok x ↔ ∃ a body, answers a ∧ Successful a.status ∧
    a.body = .whole body ∧ decode body = .ok x
  /-- Nothing but the whole body of a success is undecodable. -/
  undecodable (reason : String) : result = .error (.undecodable reason) ↔
    ∃ a body failure, answers a ∧ Successful a.status ∧ a.body = .whole body ∧
      decode body = .error failure ∧ reason = failure.describe body
  /-- The network is at fault if there was no answer, or the body of a success broke
  off. -/
  network : (∃ fault, result = .error (.network fault)) ↔
    (∀ a, ¬ answers a) ∨ ∃ a reason, answers a ∧ Successful a.status ∧ a.body = .broken reason

/-- The results of a save, each with the exact condition for it. -/
structure Saved (std : Standards) (answers : Answer → Prop) (result : Except ApiError Unit) :
    Prop extends Refused std answers result where
  /-- Each success will do, whatever comes of its body. -/
  ok : result = .ok () ↔ ∃ a, answers a ∧ Successful a.status
  /-- No answer is undecodable. -/
  undecodable (reason : String) : result ≠ .error (.undecodable reason)
  /-- The network is at fault if there was no answer. -/
  network : (∃ fault, result = .error (.network fault)) ↔ ∀ a, ¬ answers a

namespace Ending

/-- An ending is on account of the network if there is no answer. -/
theorem network_of_silent (silent : ∀ a, ¬ answers a) (ending : Ending std answers read result) :
    ∃ fault, result = .error (.network fault) := by
  cases ending with
  | unanswered _ _ => exact ⟨_, rfl⟩
  | rejected answered _ => exact absurd answered (silent _)
  | done answered _ _ => exact absurd answered (silent _)

section OneAnswer

variable (one : ∀ {a b}, answers a → answers b → a = b)

include one

/-- A success is read, and there is no other ending. -/
theorem eq_of_success {a : Answer} (answered : answers a) (success : Successful a.status)
    (ending : Ending std answers read result) : result = read a.body := by
  cases ending with
  | unanswered silent _ => exact absurd answered (silent a)
  | rejected again failure => exact absurd (one answered again ▸ success) failure
  | done again _ gives => exact one answered again ▸ gives.symm

/-- What is no success is rejected, and there is no other ending. -/
theorem eq_of_failure {a : Answer} (answered : answers a) (failure : ¬ Successful a.status)
    (ending : Ending std answers read result) :
    result = .error (.rejected a.status (a.text std)) := by
  cases ending with
  | unanswered silent _ => exact absurd answered (silent a)
  | rejected again _ => rw [one answered again]
  | done again success _ => exact absurd (one again answered ▸ success) failure

/-- Where reading a body gives no rejection, nothing but a failure is rejected. -/
theorem refused (tame : ∀ body e, read body = .error e → e.status? = none ∧ e ≠ .keyMissing)
    (ending : Ending std answers read result) : Refused std answers result where
  rejected status text := by
    constructor
    · rintro rfl
      cases ending with
      | rejected answered failure => exact ⟨_, answered, failure, rfl, rfl⟩
      | done answered success gives => exact nomatch (tame _ _ gives).1
    · rintro ⟨a, answered, failure, rfl, rfl⟩
      exact ending.eq_of_failure one answered failure
  kept a cs answered failure whole usual := by
    rw [← text_of_bytes whole usual]
    exact ending.eq_of_failure one answered failure
  broken a reason answered failure broken := by
    have none : a.text std = "" := text_of_broken broken
    rw [← none]
    exact ending.eq_of_failure one answered failure
  keyMissing := by
    rintro rfl
    cases ending with
    | done answered success gives => exact (tame _ _ gives).2 rfl
  status n := by
    constructor
    · rintro ⟨e, rfl, is⟩
      cases ending with
      | unanswered _ none => cases none.symm.trans is
      | rejected answered failure => exact ⟨_, answered, failure, Option.some.inj is⟩
      | done answered success gives => cases (tame _ _ gives).1.symm.trans is
    · rintro ⟨a, answered, failure, rfl⟩
      exact ⟨_, ending.eq_of_failure one answered failure, rfl⟩

/-- The results of a call that asks for a document. -/
theorem fetched {decode : Bytes → Except Json.Failure α}
    (ending : Ending std answers (Transfer.document decode) result) :
    Fetched std answers decode result where
  toRefused := ending.refused one fun body e failed => Transfer.document_tame failed
  ok x := by
    constructor
    · rintro rfl
      cases ending with
      | done answered success gives =>
        obtain ⟨body, whole, decoded⟩ := Transfer.document_eq_ok.1 gives
        exact ⟨_, body, answered, success, whole, decoded⟩
    · rintro ⟨a, body, answered, success, whole, decoded⟩
      rw [ending.eq_of_success one answered success]
      exact Transfer.document_eq_ok.2 ⟨body, whole, decoded⟩
  undecodable reason := by
    constructor
    · rintro rfl
      cases ending with
      | done answered success gives =>
        obtain ⟨body, failure, whole, failed, rfl⟩ := Transfer.document_eq_undecodable.1 gives
        exact ⟨_, body, failure, answered, success, whole, failed, rfl⟩
    · rintro ⟨a, body, failure, answered, success, whole, failed, rfl⟩
      rw [ending.eq_of_success one answered success]
      exact Transfer.document_eq_undecodable.2 ⟨body, failure, whole, failed, rfl⟩
  network := by
    constructor
    · rintro ⟨fault, rfl⟩
      cases ending with
      | unanswered silent _ => exact .inl silent
      | done answered success gives =>
        obtain ⟨reason, broken⟩ := Transfer.document_eq_network.1 ⟨fault, gives⟩
        exact .inr ⟨_, reason, answered, success, broken⟩
    · rintro (silent | ⟨a, reason, answered, success, broken⟩)
      · exact ending.network_of_silent silent
      · rw [ending.eq_of_success one answered success]
        exact Transfer.document_eq_network.2 ⟨reason, broken⟩

/-- The results of a save. -/
theorem saved {result : Except ApiError Unit}
    (ending : Ending std answers (fun _ => .ok ()) result) : Saved std answers result where
  toRefused := ending.refused one fun _ _ failed => by cases failed
  ok := by
    constructor
    · rintro rfl
      cases ending with
      | done answered success _ => exact ⟨_, answered, success⟩
    · rintro ⟨a, answered, success⟩
      exact ending.eq_of_success one answered success
  undecodable reason := by
    rintro rfl
    cases ending with
    | done _ _ gives => cases gives
  network := by
    constructor
    · rintro ⟨fault, rfl⟩
      cases ending with
      | unanswered silent _ => exact silent
      | done _ _ gives => cases gives
    · exact ending.network_of_silent

end OneAnswer

end Ending

/-! ## Calls -/

end Dashboard.Client
