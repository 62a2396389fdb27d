import Dashboard.Proofs.Exchange
import Dashboard.Proofs.Json.Record
import Dashboard.Proofs.Json.Write

/-!
# What a save posts

The URLs are typed freely and may hold any character.  The body that is posted for
them says each of them as it was typed, whatever has to be escaped on the way, so the
URLs can be read back and no two sets of URLs share a body.

## Main definitions

* `Urls.asValue` — the document of the URLs as a value.

## Main results

* `Urls.isDocument_document` — the document says the URLs.
* `Client.saveSettings_received` — what a request for a save carries.
-/

namespace Dashboard

open Json (Value Members Keyed valuesOf IsDocument)
open Webhook (Field Urls)

namespace Webhook.Urls

/-- The document of the URLs as a value. -/
def asValue (u : Urls) : Value :=
  .object (Field.all.map fun f => (some f.key, .text (some (u.get f))))

theorem document_eq (u : Urls) : u.document = String.ofList u.asValue.write := by
  rw [document]
  simp [asValue, Field.all, Value.write, Json.writeMembers, Json.separator, Json.quoteText]

/-- The document says the URLs. -/
theorem isDocument_document (u : Urls) : IsDocument u.document u.asValue :=
  Json.isDocument_of_write u.document_eq

/-- The URLs that a value says. -/
def saidBy? (v : Value) : Option Urls :=
  (record.meaning? (fun _ => Value.text?) v).map fun urls =>
    (List.finRange 3).foldl (fun read i => read.set (memberField i) (urls i)) empty

theorem described : record.Described fun _ => Value.text? :=
  ⟨by decide, fun _ => Json.lawful_string⟩

theorem lawful : Json.Lawful read saidBy? := described.lawful_read.map _

theorem saidBy?_asValue (u : Urls) : saidBy? u.asValue = some u := by
  refine Option.map_eq_some_iff.2 ⟨fun i => u.get (memberField i), ?_, ?_⟩
  · refine (Json.Record.object?_eq_some described).2 ⟨?_, fun i => ?_⟩
    · simp [Keyed, Field.all]
    · refine (Json.Record.memberOf?_required rfl).2 ⟨.text (some (u.get (memberField i))), ?_, rfl⟩
      revert i
      exact Fin.forall_fin_succ.2 ⟨rfl, Fin.forall_fin_two.2 ⟨rfl, rfl⟩⟩
  · refine ext_get fun f => ?_
    cases f <;> rfl

/-- What is posted is read back as it was. -/
theorem decode_body (u : Urls) : decode u.body = .ok u :=
  (lawful.decode_eq_ok_iff u.isDocument_document).2 u.saidBy?_asValue

/-- Nothing that is posted is a control character. -/
theorem le_of_mem_body (u : Urls) : ∀ b ∈ u.body, 0x20 ≤ b := by
  refine (Utf8.forall_mem_bytes (fun b high => ?_) u.document.toList).2 fun c mem ascii => ?_
  · exact UInt8.le_trans (by decide) high
  · rw [document_eq, String.toList_ofList] at mem
    rw [UInt8.le_iff_toNat_le, Utf8.toNat_ofNat_ascii ascii]
    exact (Json.printable_write u.asValue).le mem

end Webhook.Urls

namespace Client

variable {std : Standards} {config : Config} {network : Network} {u : Urls} {r : Request}

theorem lookup_headers {key : String} {body : Bytes} (apiKey : r.apiKey = some key)
    (noCache : r.noCache = false) (posted : r.body = some body) :
    r.headers.lookup "content-length" = some (toString body.length) := by
  rw [Request.headers, apiKey, noCache, posted]
  rfl

/-- Whether a request posts the URLs. -/
structure Request.Posts (r : Request) (u : Urls) : Prop where
  method : r.method = .post
  apiKey : ∃ key, r.apiKey = some key
  noCache : r.noCache = false
  body : r.body = some u.body

/-- Whether a request asks for something, without a document. -/
def Request.IsPlain (r : Request) : Prop := r.method = .get ∧ r.body = none

theorem posts_request (config : Config) (url : Url) (u : Urls) :
    (request config url (.saveSettings u)).Posts u :=
  ⟨rfl, ⟨config.apiKey, rfl⟩, rfl, rfl⟩

/-- On its way to another URL a request loses its document or keeps it as it is. -/
theorem redirected_posts_or_isPlain (status : Nat) (url : Url) (is : r.Posts u ∨ r.IsPlain) :
    (r.redirected status url).Posts u ∨ (r.redirected status url).IsPlain := by
  rw [Request.redirected]
  split
  · exact is.imp (fun posts => ⟨posts.method, posts.apiKey, posts.noCache, posts.body⟩) id
  · exact .inr ⟨rfl, rfl⟩

/-- Each request that is sent for a save posts the URLs or has no document. -/
theorem posts_or_isPlain (received : r ∈ (saveSettings std config network u).received) :
    r.Posts u ∨ r.IsPlain :=
  forall_received_exchange (P := fun r => r.Posts u ∨ r.IsPlain)
    (fun url => .inl (posts_request config url u))
    (fun _ status url => redirected_posts_or_isPlain status url) r received

/-- The first of them posts the URLs. -/
theorem posts_of_head? (received : (saveSettings std config network u).received.head? = some r) :
    r.Posts u := by
  obtain ⟨url, rfl⟩ := eq_request_of_head? received
  exact posts_request config url u

/-- A request for a save carries the URLs in full: its body is read back as the URLs,
is free of control characters and has the length that is announced, and no other URLs
are posted in the same way. Only a request that is sent on to another URL may be one
without a body instead. -/
theorem saveSettings_received (received : r ∈ (saveSettings std config network u).received) :
    (r.method = .post ∧ ∃ text : String, r.body = some (Utf8.encode text) ∧
      Urls.decode (Utf8.encode text) = .ok u ∧
      (∀ b ∈ Utf8.encode text, 0x20 ≤ b) ∧
      r.headers.lookup "content-length" = some (toString text.utf8ByteSize) ∧
      ∀ (std' : Standards) (config' : Config) (network' : Network) (v : Urls) (r' : Request),
        r' ∈ (saveSettings std' config' network' v).received → r'.body = r.body → v = u) ∨
    (r.method = .get ∧ r.body = none ∧
      (saveSettings std config network u).received.head? ≠ some r) := by
  rcases posts_or_isPlain received with posts | ⟨get, bodiless⟩
  · refine .inl ⟨posts.method, u.document, posts.body, u.decode_body, u.le_of_mem_body, ?_, ?_⟩
    · obtain ⟨key, apiKey⟩ := posts.apiKey
      rw [lookup_headers apiKey posts.noCache posts.body, ← Utf8.length_encode]
      rfl
    · intro std' config' network' v r' received' same
      rw [posts.body] at same
      rcases posts_or_isPlain received' with posts' | ⟨-, bodiless⟩
      · have bodies : v.body = u.body := Option.some.inj (posts'.body.symm.trans same)
        have decoded := v.decode_body
        rw [bodies, u.decode_body] at decoded
        exact (Except.ok.inj decoded).symm
      · cases bodiless.symm.trans same
  · refine .inr ⟨get, bodiless, fun head => ?_⟩
    cases bodiless.symm.trans (posts_of_head? head).body

/-- A save of URLs with a quote, a backslash, a line feed and a character outside the
basic plane. -/
theorem saveSettings_received_escaped :
    let config : Config := ⟨"http://h/api", "key"⟩
    let network : Network := .serving "http://h" (.answer (.bare 200 []))
    let urls : Urls := ⟨"a\"\\", "\n\x7f", "𝄞"⟩
    ∃ r ∈ (saveSettings .plain config network urls).received,
      ∃ text : String, r.body = some (Utf8.encode text) ∧
        r.headers.lookup "content-length" = some (toString text.utf8ByteSize) := by
  intro config network urls
  obtain ⟨r, head⟩ : ∃ r, (saveSettings .plain config network urls).received.head? = some r :=
    Option.isSome_iff_exists.1 (by decide +kernel)
  have received := List.mem_of_head? head
  rcases saveSettings_received received with ⟨_, text, posted, _, _, length, _⟩ | ⟨_, _, later⟩
  · exact ⟨r, received, text, posted, length⟩
  · exact absurd head later

end Client

end Dashboard
