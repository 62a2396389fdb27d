import Dashboard.Proofs.Body
import Dashboard.Proofs.Json.Record
import Dashboard.Proofs.Json.Write

/-!
# The format of the status

What the server tells about its configuration is taken from its answer exactly as
it is written.  None of the seven flags has a default, so a flag that is left out,
written twice or not as a flag makes the whole answer unreadable, and no flag is
shown that was not written.

## Main definitions

* `Features.WrittenBy`, `ServerStatus.WrittenBy` — the format.

## Main results

* `ServerStatus.decode_object` — an object is decoded if it has the format, to the
  flags that it writes.
-/

namespace Dashboard

open Json (Value Members Keyed valuesOf IsDocument Lawful)

namespace Features

/-- Whether a value writes the flags: as an object in which each of them is a
member, or as the list of the flags. -/
inductive WrittenBy (f : Features) : Value → Prop
  | object {ms : Members} : Keyed ms →
      valuesOf "redis_enabled" ms = [.flag f.redis] →
      valuesOf "anthropic_enabled" ms = [.flag f.anthropic] →
      valuesOf "webhooks_configured" ms = [.flag f.webhooks] →
      valuesOf "budget_enforced" ms = [.flag f.budget] →
      valuesOf "daily_limit_enforced" ms = [.flag f.dailyLimit] → WrittenBy f (.object ms)
  | list : WrittenBy f
      (.list [.flag f.redis, .flag f.anthropic, .flag f.webhooks, .flag f.budget,
        .flag f.dailyLimit])

/-- The flags, by the places of their members. -/
def flags (f : Features) : Fin 5 → Bool
  | 0 => f.redis
  | 1 => f.anthropic
  | 2 => f.webhooks
  | 3 => f.budget
  | 4 => f.dailyLimit

theorem described : record.Described fun _ => Value.flag? :=
  ⟨by decide, fun _ => Json.lawful_flag⟩

/-- The values of a member that say a flag. -/
theorem memberOf?_flag {i : Fin 5} {vs : List Value} {b : Bool} :
    record.memberOf? (fun _ => Value.flag?) i vs = some b ↔ vs = [.flag b] := by
  refine (Json.Record.memberOf?_required rfl).trans ?_
  simp only [Value.flag?_eq_some, exists_eq_right]

/-- A list says the flags if it is the list of them. -/
theorem list?_eq_some_iff_ofFn {vs : List Value} {x : Fin 5 → Bool} :
    record.list? (fun _ => Value.flag?) vs = some x ↔ vs = List.ofFn fun i => .flag (x i) := by
  simp only [Json.Record.list?_eq_some, memberOf?_flag, Option.toList_eq_singleton_iff]
  constructor
  · rintro ⟨short, all⟩
    exact Json.Record.eq_ofFn short all
  · rintro rfl
    exact ⟨by rw [List.length_ofFn], fun i => by rw [List.getElem?_ofFn, dif_pos i.isLt]⟩

/-- The flags are read where they are written. -/
theorem exists_lawful : ∃ means : Value → Option Features,
    Lawful read means ∧ ∀ v f, means v = some f ↔ f.WrittenBy v := by
  refine ⟨_, described.lawful_read.map _, fun v f => ?_⟩
  rw [Option.map_eq_some_iff]
  constructor
  · rintro ⟨x, meaning, rfl⟩
    cases v with
    | object ms =>
      obtain ⟨keyed, all⟩ := (Json.Record.object?_eq_some described).1 meaning
      exact .object keyed (memberOf?_flag.1 (all 0)) (memberOf?_flag.1 (all 1))
        (memberOf?_flag.1 (all 2)) (memberOf?_flag.1 (all 3)) (memberOf?_flag.1 (all 4))
    | list vs =>
      rw [list?_eq_some_iff_ofFn.1 meaning]
      exact .list
    | null | flag | number | text => cases meaning
  · intro written
    refine ⟨f.flags, ?_, rfl⟩
    cases written with
    | object keyed redis anthropic webhooks budget dailyLimit =>
      refine (Json.Record.object?_eq_some described).2 ⟨keyed, fun i => memberOf?_flag.2 ?_⟩
      match i with
      | 0 => exact redis
      | 1 => exact anthropic
      | 2 => exact webhooks
      | 3 => exact budget
      | 4 => exact dailyLimit
    | list => exact list?_eq_some_iff_ofFn.2 rfl

end Features

namespace ServerStatus

/-- Whether members write the status: both flags once, and once the flags of the
subsystems. -/
structure WrittenBy (s : ServerStatus) (ms : Members) : Prop where
  keyed : Keyed ms
  apiKey : valuesOf "api_key_configured" ms = [.flag s.apiKeyConfigured]
  openai : valuesOf "openai_configured" ms = [.flag s.openaiConfigured]
  features : ∃ v, valuesOf "features" ms = [v] ∧ s.features.WrittenBy v

/-- What the values of the members say, given what is said of the subsystems. -/
def part? (features : Value → Option Features) : (i : Fin 3) → Value → Option (Part i)
  | 0 => Value.flag?
  | 1 => Value.flag?
  | 2 => features

theorem described {features : Value → Option Features} (law : Lawful Features.read features) :
    record.Described (part? features) where
  distinct := by decide
  lawful
    | 0 => Json.lawful_flag
    | 1 => Json.lawful_flag
    | 2 => law

/-- No member may be left out. -/
theorem required (i : Fin 3) : (record.member i).absent = none := by
  match i with
  | 0 => rfl
  | 1 => rfl
  | 2 => rfl

/-- The members of a status, by their places. -/
def parts (s : ServerStatus) : (i : Fin 3) → Part i
  | 0 => s.apiKeyConfigured
  | 1 => s.openaiConfigured
  | 2 => s.features

/-- The status is read where it is written. -/
theorem exists_lawful : ∃ means : Value → Option ServerStatus, Lawful read means ∧
    (∀ ms s, means (.object ms) = some s ↔ s.WrittenBy ms) ∧
    ∀ v, (∀ ms, v ≠ .object ms) → (∀ vs, v ≠ .list vs) → means v = none := by
  obtain ⟨features, law, written⟩ := Features.exists_lawful
  refine ⟨_, (described law).lawful_read.map _, fun ms s => ?_, fun v notObject notList => ?_⟩
  · rw [Option.map_eq_some_iff]
    constructor
    · rintro ⟨x, meaning, rfl⟩
      obtain ⟨keyed, all⟩ := (Json.Record.object?_eq_some (described law)).1 meaning
      obtain ⟨v, apiKey, said₀⟩ := (Json.Record.memberOf?_required (required 0)).1 (all 0)
      obtain ⟨w, openai, said₁⟩ := (Json.Record.memberOf?_required (required 1)).1 (all 1)
      obtain ⟨u, features, said₂⟩ := (Json.Record.memberOf?_required (required 2)).1 (all 2)
      rw [Value.flag?_eq_some.1 said₀] at apiKey
      rw [Value.flag?_eq_some.1 said₁] at openai
      exact ⟨keyed, apiKey, openai, u, features, (written u _).1 said₂⟩
    · intro format
      obtain ⟨u, features, flags⟩ := format.features
      refine ⟨s.parts, (Json.Record.object?_eq_some (described law)).2
        ⟨format.keyed, fun i => (Json.Record.memberOf?_required (required i)).2 ?_⟩, rfl⟩
      match i with
      | 0 => exact ⟨_, format.apiKey, rfl⟩
      | 1 => exact ⟨_, format.openai, rfl⟩
      | 2 => exact ⟨u, features, (written u s.features).2 flags⟩
  · rw [Json.Record.meaning?_eq_none notObject notList, Option.map_none]

/-- An object is decoded just if it has the format, and then to the flags that it
writes; whatever else is no list is undecodable.  Keys whose surrogates all have
partners say texts, so for them `Keyed` holds. -/
theorem decode_object (text : String) :
    (∀ ms, IsDocument text (.object ms) →
      (∀ s, Client.document decode (Utf8.encode text) = .ok s ↔ s.WrittenBy ms) ∧
      ((¬∃ s : ServerStatus, s.WrittenBy ms) →
        ∃ reason, Client.document decode (Utf8.encode text) = .error (.undecodable reason))) ∧
    ((∀ v, IsDocument text v → (∀ ms, v ≠ .object ms) ∧ ∀ vs, v ≠ .list vs) →
      ∃ reason, Client.document decode (Utf8.encode text) = .error (.undecodable reason)) := by
  obtain ⟨means, law, written, other⟩ := exists_lawful
  refine ⟨fun ms document => ⟨fun s => ?_, fun nothing => ?_⟩, fun noRecord => ?_⟩
  · exact (Client.document_eq_ok_iff law document).trans (written ms s)
  · exact Client.document_of_nothing law document fun s said => nothing ⟨s, (written ms s).1 said⟩
  · exact Client.document_of_no_value law fun v document =>
      other v (noRecord v document).1 (noRecord v document).2

/-- An answer in which the members come in another order, with an unknown one
among them. -/
def shuffled : String :=
  "\x7b\"features\":[true,false,true,false,true],\"region\":\x7b\"features\":null\x7d," ++
    "\"openai_configured\":false,\"api_key_configured\":true\x7d"

/-- The members of that answer. -/
def shuffledMembers : Members :=
  [(some "features", .list [.flag true, .flag false, .flag true, .flag false, .flag true]),
    (some "region", .object [(some "features", .null)]),
    (some "openai_configured", .flag false), (some "api_key_configured", .flag true)]

theorem decode_shuffled :
    IsDocument shuffled (.object shuffledMembers) ∧
      Client.document decode (Utf8.encode shuffled) =
        .ok ⟨true, false, ⟨true, false, true, false, true⟩⟩ := by
  have written : IsDocument shuffled (.object shuffledMembers) :=
    Json.isDocument_of_write (by decide +kernel)
  refine ⟨written, (((decode_object shuffled).1 shuffledMembers written).1 _).2 ?_⟩
  exact ⟨by simp [Keyed, shuffledMembers], rfl, rfl, _, rfl, .list⟩

end ServerStatus

end Dashboard
