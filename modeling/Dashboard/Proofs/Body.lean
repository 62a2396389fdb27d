import Dashboard.Client.Exchange
import Dashboard.Proofs.Json.Lawful
import Dashboard.Proofs.Utf8

/-!
# Reading the body of an answer

The body of a successful answer is decoded, and where that fails the failure is
turned into an error that keeps nothing but its text.  What the calls give for a
body is therefore settled by what the reader of the document says.

## Main results

* `Client.document_eq_ok_iff` — a document gives what it says.
* `Client.document_of_no_value` — what says nothing of the wanted kind is undecodable.
-/

namespace Dashboard.Text

/-- The characters after a byte order mark, if one stands in front. -/
def withoutMark : List Char → List Char
  | '\uFEFF' :: cs => cs
  | cs => cs

theorem withoutMark_of_ne {cs : List Char} (none : ∀ ds, cs ≠ '\uFEFF' :: ds) :
    withoutMark cs = cs := by
  rw [withoutMark]
  exact none

/-- The text of a well-formed body consists of its characters, without a byte order
mark in front. -/
theorem ofBodyIn_bytes (cs : List Char) :
    ofBodyIn Utf8.lossy (Utf8.bytes cs) = String.ofList (withoutMark cs) := by
  have mark : Utf8.bytes ['\uFEFF'] = [0xEF, 0xBB, 0xBF] := by decide
  have first {b : UInt8} {rest : Bytes} (eq : Utf8.bytes cs = b :: rest) : b.toNat < 0xF5 := by
    obtain ⟨c, -, inside⟩ := List.mem_flatMap.1 (eq ▸ List.mem_cons_self : b ∈ Utf8.bytes cs)
    exact Utf8.lt_of_mem_encodeChar inside
  rw [ofBodyIn.eq_def]
  split
  · next rest eq =>
    obtain ⟨ds, rfl, rfl⟩ := Utf8.bytes_eq_append (w := ['\uFEFF']) (eq.trans (by rw [mark]; rfl))
    exact Utf8.lossy_bytes ds
  · next rest eq => exact absurd (first eq) (by decide)
  · next rest eq => exact absurd (first eq) (by decide)
  · next body unmarked _ _ =>
    rw [withoutMark_of_ne, Utf8.lossy_bytes]
    rintro ds rfl
    refine unmarked (Utf8.bytes ds) ?_
    rw [Utf8.bytes_cons]
    rfl

end Dashboard.Text

namespace Dashboard.Client

open Json (Reader Value Lawful IsDocument)

variable {α : Type}

theorem document_eq_ok {decode : Bytes → Except Json.Failure α} {body : Bytes} {x : α} :
    document decode body = .ok x ↔ decode body = .ok x := by
  rw [document]
  cases decode body <;> simp

/-- What is not decoded is undecodable, and that is the only error. -/
theorem exists_undecodable {decode : Bytes → Except Json.Failure α} {body : Bytes}
    (fails : ∀ x, decode body ≠ .ok x) :
    ∃ reason, document decode body = .error (.undecodable reason) := by
  rw [document]
  cases h : decode body with
  | ok x => exact absurd h (fails x)
  | error failure => exact ⟨_, rfl⟩

/-! ## Bodies that may break off -/

section Transfer

variable {decode : Bytes → Except Json.Failure α} {t : Transfer}

theorem Transfer.document_eq_ok {x : α} :
    t.document decode = .ok x ↔ ∃ body, t = .whole body ∧ decode body = .ok x := by
  cases t <;> simp [Transfer.document, Client.document_eq_ok]

theorem Transfer.document_eq_undecodable {reason : String} :
    t.document decode = .error (.undecodable reason) ↔
      ∃ body failure, t = .whole body ∧ decode body = .error failure ∧
        reason = failure.describe body := by
  cases t with
  | broken reason => simp [Transfer.document]
  | whole body =>
    rw [Transfer.document, Client.document]
    cases decoded : decode body <;> simp [decoded, eq_comm]

theorem Transfer.document_eq_network :
    (∃ fault, t.document decode = .error (.network fault)) ↔ ∃ reason, t = .broken reason := by
  cases t with
  | broken reason => simp [Transfer.document]
  | whole body =>
    rw [Transfer.document, Client.document]
    cases decode body <;> simp

/-- A body is not taken for a rejection, and it does not tell of a missing key. -/
theorem Transfer.document_tame {e : ApiError} (failed : t.document decode = .error e) :
    e.status? = none ∧ e ≠ .keyMissing := by
  cases t with
  | broken reason =>
    cases failed
    exact ⟨rfl, nofun⟩
  | whole body =>
    rw [Transfer.document, Client.document] at failed
    split at failed
    · cases failed
    · cases failed
      exact ⟨rfl, nofun⟩

end Transfer

section Lawful

variable {read : Reader α} {means : Value → Option α} {text : String}

/-- A document gives what it says. -/
theorem document_eq_ok_iff (law : Lawful read means) {v : Value} (written : IsDocument text v)
    {x : α} : document (Json.decode read) (Utf8.encode text) = .ok x ↔ means v = some x :=
  document_eq_ok.trans (law.decode_eq_ok_iff written)

/-- A text is undecodable if no value that it writes says anything. -/
theorem document_of_no_value (law : Lawful read means)
    (nothing : ∀ v, IsDocument text v → means v = none) :
    ∃ reason, document (Json.decode read) (Utf8.encode text) = .error (.undecodable reason) := by
  refine exists_undecodable fun x ok => ?_
  obtain ⟨v, written, said⟩ := law.exists_of_decode ok
  rw [nothing v written] at said
  cases said

/-- A document is undecodable if it says nothing. -/
theorem document_of_nothing (law : Lawful read means) {v : Value} (written : IsDocument text v)
    (nothing : ∀ x, means v ≠ some x) :
    ∃ reason, document (Json.decode read) (Utf8.encode text) = .error (.undecodable reason) :=
  exists_undecodable fun x ok => nothing x ((law.decode_eq_ok_iff written).1 ok)

end Lawful

end Dashboard.Client
