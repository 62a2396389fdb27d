import Dashboard.Proofs.Body
import Dashboard.Proofs.Json.Record
import Dashboard.Proofs.Json.Write

/-!
# The format of the settings envelope

The envelope that is fetched is checked as a whole.  One entry of a wrong kind makes
all of it unreadable, also under a key that belongs to no webhook, while members with
unknown keys may hold anything where records are expected.  What the envelope means
for a webhook is read off the last value that each dictionary has for its key.

The format is stated on values, and so is the meaning: neither knows of slots,
defaults or of the order in which members come.

## Main definitions

* `Envelope.HasFormat` — the format.
* `Envelope.persisted?`, `Envelope.fallenBackTo?` — the texts written for a key.

## Main results

* `Envelope.decode_and_resolve` — an object is decoded just if it has the format, and
  resolves to what is written in it.
-/

namespace Dashboard.Webhook.Envelope

open Json (Value Members Keyed valuesOf IsDocument Lawful)

/-! ## The format -/

/-- Null or a string. -/
def IsOptionalText : Value → Prop
  | .null => True
  | .text t => t ≠ none
  | _ => False

/-- Null, or a stored setting: an object whose value comes at most once, or a list of
at most the value. -/
def IsOptionalSetting : Value → Prop
  | .null => True
  | .object ms => Keyed ms ∧ (valuesOf "value" ms).length ≤ 1 ∧
      ∀ v ∈ valuesOf "value" ms, IsOptionalText v
  | .list vs => vs.length ≤ 1 ∧ ∀ v ∈ vs, IsOptionalText v
  | _ => False

/-- Null, or an object all of whose values are of a kind. -/
def IsOptionalDictionary (kind : Value → Prop) : Value → Prop
  | .null => True
  | .object ms => Keyed ms ∧ ∀ m ∈ ms, kind m.2
  | _ => False

/-- Whether members write an envelope. -/
structure HasFormat (ms : Members) : Prop where
  keyed : Keyed ms
  settingsOnce : (valuesOf "settings" ms).length ≤ 1
  settings : ∀ v ∈ valuesOf "settings" ms, IsOptionalDictionary IsOptionalSetting v
  fallbacksOnce : (valuesOf "environment_fallbacks" ms).length ≤ 1
  fallbacks : ∀ v ∈ valuesOf "environment_fallbacks" ms, IsOptionalDictionary IsOptionalText v

/-! ## The meaning -/

/-- The text of a stored setting, if it has one. -/
def settingText? : Value → Option String
  | .object ms => (valuesOf "value" ms).head?.bind Value.text?
  | .list vs => vs.head?.bind Value.text?
  | _ => none

/-- The last value for a key in the dictionary that a member holds. -/
def lastWritten? (member key : String) (ms : Members) : Option Value :=
  (valuesOf member ms).head?.bind fun
    | .object entries => (valuesOf key entries).getLast?
    | _ => none

/-- The text that is stored for a key. -/
def persisted? (ms : Members) (key : String) : Option String :=
  (lastWritten? "settings" key ms).bind settingText?

/-- The text that the environment has for a key. -/
def fallenBackTo? (ms : Members) (key : String) : Option String :=
  (lastWritten? "environment_fallbacks" key ms).bind Value.text?

/-! ## Unknown members -/

/-- A stored setting without its unknown members. -/
def knownSetting : Value → Value
  | .object ms => .object (ms.filter (·.1 = some "value"))
  | v => v

/-- A dictionary of stored settings without their unknown members. -/
def knownSettings : Value → Value
  | .object entries => .object (entries.map fun m => (m.1, knownSetting m.2))
  | v => v

/-- Whether members differ at most in those that are unknown, be it in the envelope or
in a stored setting. -/
def SameKnown (ms ms' : Members) : Prop :=
  (valuesOf "settings" ms).map knownSettings = (valuesOf "settings" ms').map knownSettings ∧
    valuesOf "environment_fallbacks" ms = valuesOf "environment_fallbacks" ms'

theorem settingText?_knownSetting (v : Value) : settingText? (knownSetting v) = settingText? v := by
  cases v with
  | object ms =>
    rw [knownSetting, settingText?, settingText?, valuesOf, List.filter_filter, valuesOf]
    simp only [Bool.and_self]
  | null | flag | number | list | text => rfl

/-- What is persisted is read off the known members. -/
theorem persisted?_eq (ms : Members) (key : String) :
    persisted? ms key = ((valuesOf "settings" ms).map knownSettings).head?.bind fun
      | .object entries => (valuesOf key entries).getLast?.bind settingText?
      | _ => none := by
  rw [persisted?, lastWritten?, List.head?_map]
  cases (valuesOf "settings" ms).head? with
  | none => rfl
  | some v =>
    cases v with
    | object entries =>
      have known : valuesOf key (entries.map fun m => (m.1, knownSetting m.2)) =
          (valuesOf key entries).map knownSetting := by
        rw [valuesOf, List.filter_map, List.map_map, valuesOf, List.map_map]
        rfl
      show ((valuesOf key entries).getLast?.bind settingText?) =
        (valuesOf key (entries.map fun m => (m.1, knownSetting m.2))).getLast?.bind settingText?
      rw [known, List.getLast?_map]
      cases (valuesOf key entries).getLast? with
      | none => rfl
      | some w => exact (settingText?_knownSetting w).symm
    | null | flag | number | list | text => rfl

theorem SameKnown.persisted? {ms ms' : Members} (same : SameKnown ms ms') (key : String) :
    persisted? ms key = Envelope.persisted? ms' key := by
  rw [persisted?_eq, persisted?_eq, same.1]

theorem SameKnown.fallenBackTo? {ms ms' : Members} (same : SameKnown ms ms') (key : String) :
    fallenBackTo? ms key = Envelope.fallenBackTo? ms' key := by
  rw [Envelope.fallenBackTo?, Envelope.fallenBackTo?, lastWritten?, lastWritten?, same.2]

/-! ## What values say -/

/-- The setting that a value says. -/
def settingOf : Value → Option Setting
  | .null => none
  | v => some ⟨settingText? v⟩

/-- The dictionary that a value says, given what the values in it say. -/
def dictionaryOf {α : Type} (entry : Value → α) : Value → Option (List (String × α))
  | .object ms => some (ms.map fun m => (m.1.getD "", entry m.2))
  | _ => none

/-- A meaning in two parts: which values have one, and what it is then. -/
structure Means {α : Type} (means : Value → Option α) (kind : Value → Prop)
    (gives : Value → α) : Prop where
  eq_some : ∀ v x, means v = some x ↔ kind v ∧ gives v = x

theorem means_optionalText :
    Means (Value.optional? Value.text?) IsOptionalText Value.text? := by
  refine ⟨fun v x => ?_⟩
  cases v with
  | text t => cases t <;> simp [Value.optional?, Value.text?, IsOptionalText]
  | null | flag | number | list | object => simp [Value.optional?, Value.text?, IsOptionalText]

/-- The entries of a dictionary say what each of them says. -/
theorem entries?_eq_some {α : Type} {means : Value → Option α} {kind : Value → Prop}
    {gives : Value → α} (entry : Means means kind gives) {ms : Members}
    {l : List (String × α)} :
    Value.entries? means ms = some l ↔ (Keyed ms ∧ ∀ m ∈ ms, kind m.2) ∧
      (ms.map fun m => (m.1.getD "", gives m.2)) = l := by
  induction ms generalizing l with
  | nil => simp [Value.entries?, Keyed]
  | cons m ms ih =>
    obtain ⟨_ | key, v⟩ := m
    · simp [Value.entries?, Keyed]
    · rw [Json.Record.keyed_cons, Value.entries?, Option.bind_some]
      simp only [Option.bind_eq_some_iff, Option.map_eq_some_iff, entry.eq_some, ih, List.mem_cons,
        forall_eq_or_imp, List.map_cons, Option.getD_some]
      constructor
      · rintro ⟨x, ⟨here, rfl⟩, others, ⟨⟨keyed, kinds⟩, rfl⟩, rfl⟩
        exact ⟨⟨⟨Option.some_ne_none key, keyed⟩, here, kinds⟩, rfl⟩
      · rintro ⟨⟨⟨_, keyed⟩, here, kinds⟩, rfl⟩
        exact ⟨_, ⟨here, rfl⟩, _, ⟨⟨keyed, kinds⟩, rfl⟩, rfl⟩

theorem means_optionalDictionary {α : Type} {means : Value → Option α} {kind : Value → Prop}
    {gives : Value → α} (entry : Means means kind gives) :
    Means (Value.optional? (Value.dictionary? means)) (IsOptionalDictionary kind)
      (dictionaryOf gives) := by
  refine ⟨fun v x => ?_⟩
  cases v with
  | object ms =>
    simp only [Value.optional?, Value.dictionary?, Option.map_eq_some_iff, entries?_eq_some entry]
    constructor
    · rintro ⟨_, ⟨all, same⟩, eq⟩
      exact ⟨all, by rw [dictionaryOf, same, eq]⟩
    · rintro ⟨all, eq⟩
      exact ⟨_, ⟨all, rfl⟩, eq⟩
  | null | flag | number | list | text =>
    simp [Value.optional?, Value.dictionary?, IsOptionalDictionary, dictionaryOf]

/-- What the values of a member say that may be left out. -/
theorem atMostOnce {α : Type} {means : Value → Option (Option α)} {kind : Value → Prop}
    {gives : Value → Option α} (value : Means means kind gives) {vs : List Value} {x : Option α} :
    (vs = [] ∧ none = x ∨ ∃ v, vs = [v] ∧ means v = some x) ↔
      (vs.length ≤ 1 ∧ ∀ v ∈ vs, kind v) ∧ vs.head?.bind gives = x := by
  simp only [value.eq_some]
  rcases vs with _ | ⟨v, _ | ⟨w, vs⟩⟩ <;> simp

/-! ### Stored settings -/

theorem setting_described : settingRecord.Described fun _ => Value.optional? Value.text? where
  distinct := by decide
  lawful _ := Json.lawful_string.optional

theorem memberOf?_setting {i : Fin 1} {vs : List Value} {x : Option String} :
    settingRecord.memberOf? (fun _ => Value.optional? Value.text?) i vs = some x ↔
      (vs.length ≤ 1 ∧ ∀ v ∈ vs, IsOptionalText v) ∧ vs.head?.bind Value.text? = x :=
  (Json.Record.memberOf?_default rfl).trans (atMostOnce means_optionalText)

theorem toList_first {vs : List Value} (short : vs.length ≤ 1) : vs[0]?.toList = vs := by
  match vs, short with
  | [], _ => rfl
  | [v], _ => rfl

/-- Stored settings are read where they are written. -/
theorem exists_lawful_setting : ∃ means : Value → Option Setting, Lawful readSetting means ∧
    Means (Value.optional? means) IsOptionalSetting settingOf := by
  refine ⟨_, setting_described.lawful_read.map _, ⟨fun v x => ?_⟩⟩
  cases v with
  | object ms =>
    simp only [Value.optional?, Option.map_eq_some_iff, Json.Record.meaning?,
      Json.Record.object?_eq_some setting_described, memberOf?_setting, IsOptionalSetting,
      settingOf, settingText?]
    constructor
    · rintro ⟨_, ⟨values, ⟨keyed, all⟩, rfl⟩, rfl⟩
      obtain ⟨kinds, same⟩ := all 0
      exact ⟨⟨keyed, kinds⟩, by rw [← same]; rfl⟩
    · rintro ⟨⟨keyed, kinds⟩, rfl⟩
      exact ⟨_, ⟨fun _ => _, ⟨keyed, fun _ => ⟨kinds, rfl⟩⟩, rfl⟩, rfl⟩
  | list vs =>
    simp only [Value.optional?, Option.map_eq_some_iff, Json.Record.meaning?,
      Json.Record.list?_eq_some, memberOf?_setting, IsOptionalSetting, settingOf, settingText?]
    constructor
    · rintro ⟨_, ⟨values, ⟨short, all⟩, rfl⟩, rfl⟩
      obtain ⟨kinds, same⟩ := all 0
      rw [Fin.val_zero, toList_first short] at kinds same
      exact ⟨kinds, by rw [← same]⟩
    · rintro ⟨kinds, rfl⟩
      refine ⟨_, ⟨fun _ => vs.head?.bind Value.text?, ⟨kinds.1, fun i => ?_⟩, rfl⟩, rfl⟩
      rw [Fin.fin_one_eq_zero i, Fin.val_zero, toList_first kinds.1]
      exact ⟨kinds, rfl⟩
  | null | flag | number | text =>
    simp [Value.optional?, Json.Record.meaning?, IsOptionalSetting, settingOf]

/-! ### Envelopes -/

/-- What the values of the members say, given what is said of a stored setting. -/
def part? (setting : Value → Option Setting) : (i : Fin 2) → Value → Option (Part i)
  | 0 => Value.optional? (Value.dictionary? (Value.optional? setting))
  | 1 => Value.optional? (Value.dictionary? (Value.optional? Value.text?))

theorem described {setting : Value → Option Setting} (law : Lawful readSetting setting) :
    record.Described (part? setting) where
  distinct := by decide
  lawful
    | 0 => law.optional.dictionary.optional
    | 1 => Json.lawful_string.optional.dictionary.optional

/-- The envelope that members write. -/
def writtenBy (ms : Members) : Envelope where
  settings := (valuesOf "settings" ms).head?.bind (dictionaryOf settingOf)
  fallbacks := (valuesOf "environment_fallbacks" ms).head?.bind (dictionaryOf Value.text?)

/-- The members of an envelope, by their places. -/
def parts (e : Envelope) : (i : Fin 2) → Part i
  | 0 => e.settings
  | 1 => e.fallbacks

section Parts

variable {setting : Value → Option Setting} {vs : List Value}

theorem memberOf?_settings (means : Means (Value.optional? setting) IsOptionalSetting settingOf)
    {x : Part 0} :
    record.memberOf? (part? setting) 0 vs = some x ↔
      (vs.length ≤ 1 ∧ ∀ v ∈ vs, IsOptionalDictionary IsOptionalSetting v) ∧
        vs.head?.bind (dictionaryOf settingOf) = x :=
  (Json.Record.memberOf?_default rfl).trans (atMostOnce (means_optionalDictionary means))

theorem memberOf?_fallbacks {x : Part 1} :
    record.memberOf? (part? setting) 1 vs = some x ↔
      (vs.length ≤ 1 ∧ ∀ v ∈ vs, IsOptionalDictionary IsOptionalText v) ∧
        vs.head?.bind (dictionaryOf Value.text?) = x :=
  (Json.Record.memberOf?_default rfl).trans
    (atMostOnce (means_optionalDictionary means_optionalText))

end Parts

/-- Envelopes are read where they are written. -/
theorem exists_lawful : ∃ means : Value → Option Envelope, Lawful read means ∧
    (∀ ms e, means (.object ms) = some e ↔ HasFormat ms ∧ writtenBy ms = e) ∧
    ∀ v, (∀ ms, v ≠ .object ms) → (∀ vs, v ≠ .list vs) → means v = none := by
  obtain ⟨setting, law, means⟩ := exists_lawful_setting
  refine ⟨_, (described law).lawful_read.map _, fun ms e => ?_, fun v notObject notList => ?_⟩
  · simp only [Option.map_eq_some_iff, Json.Record.meaning?,
      Json.Record.object?_eq_some (described law)]
    constructor
    · rintro ⟨x, ⟨keyed, all⟩, rfl⟩
      obtain ⟨⟨once, settings⟩, same⟩ := (memberOf?_settings means).1 (all 0)
      obtain ⟨⟨once', fallbacks⟩, same'⟩ := memberOf?_fallbacks.1 (all 1)
      exact ⟨⟨keyed, once, settings, once', fallbacks⟩, by rw [← same, ← same']; rfl⟩
    · rintro ⟨format, rfl⟩
      refine ⟨(writtenBy ms).parts, ⟨format.keyed, Fin.forall_fin_two.2 ⟨?_, ?_⟩⟩, rfl⟩
      · exact (memberOf?_settings means).2 ⟨⟨format.settingsOnce, format.settings⟩, rfl⟩
      · exact memberOf?_fallbacks.2 ⟨⟨format.fallbacksOnce, format.fallbacks⟩, rfl⟩
  · rw [Json.Record.meaning?_eq_none notObject notList, Option.map_none]

/-! ## Resolving -/

/-- The value that is looked up is the last one written for the key. -/
theorem lookup?_entries {α : Type} (entry : Value → α) {ms : Members} (keyed : Keyed ms)
    (key : String) :
    Json.lookup? key (ms.map fun m => (m.1.getD "", entry m.2)) =
      (valuesOf key ms).getLast?.map entry := by
  have picked : ms.filter (fun m => m.1.getD "" == key) = ms.filter (·.1 = some key) := by
    refine List.filter_congr fun m mem => ?_
    obtain ⟨_ | other, v⟩ := m
    · exact absurd rfl (keyed _ mem)
    · rw [Bool.eq_iff_iff]
      simp
  rw [Json.lookup?, ← List.getLast?_filter, List.filter_map, List.getLast?_map, valuesOf,
    List.getLast?_map, ← picked, Option.map_map, Option.map_map]
  rfl

theorem stored?_writtenBy {ms : Members} (format : HasFormat ms) (key : String) :
    (writtenBy ms).stored? key = persisted? ms key := by
  rw [stored?, writtenBy, persisted?, lastWritten?]
  cases first : (valuesOf "settings" ms).head? with
  | none => rfl
  | some v =>
    have kind := format.settings v (List.mem_of_head? first)
    cases v with
    | object entries =>
      simp only [Option.bind_some, dictionaryOf, lookup?_entries settingOf kind.1]
      cases (valuesOf key entries).getLast? with
      | none => rfl
      | some w => cases w <;> rfl
    | null | flag | number | list | text => rfl

theorem fallback?_writtenBy {ms : Members} (format : HasFormat ms) (key : String) :
    (writtenBy ms).fallback? key = fallenBackTo? ms key := by
  rw [fallback?, writtenBy, fallenBackTo?, lastWritten?]
  cases first : (valuesOf "environment_fallbacks" ms).head? with
  | none => rfl
  | some v =>
    have kind := format.fallbacks v (List.mem_of_head? first)
    cases v with
    | object entries =>
      simp only [Option.bind_some, dictionaryOf, lookup?_entries Value.text? kind.1]
      cases (valuesOf key entries).getLast? <;> rfl
    | null | flag | number | list | text => rfl

/-- The first of two texts that is not empty, and the empty text if there is none. -/
def firstNonempty (a b : Option String) : String :=
  if a.getD "" ≠ "" then a.getD "" else b.getD ""

theorem nonempty?_some {t : String} (nonempty : t ≠ "") : nonempty? (some t) = some t := by
  rw [nonempty?, Option.filter_some, if_pos (by simpa using nonempty)]

theorem getD_nonempty? (a : Option String) : (nonempty? a).getD "" = a.getD "" := by
  rcases a with _ | t
  · rfl
  · by_cases empty : t = ""
    · rw [empty]
      rfl
    · rw [nonempty?_some empty]

theorem resolveField_eq (e : Envelope) (f : Field) :
    e.resolveField f = firstNonempty (e.stored? f.key) (e.fallback? f.key) := by
  rw [resolveField, firstNonempty]
  rcases e.stored? f.key with _ | t
  · exact getD_nonempty? _
  · by_cases empty : t = ""
    · rw [empty]
      exact getD_nonempty? _
    · rw [nonempty?_some empty, Option.some_or]
      exact (if_pos empty).symm

theorem resolveField_writtenBy {ms : Members} (format : HasFormat ms) (f : Field) :
    (writtenBy ms).resolveField f =
      firstNonempty (persisted? ms f.key) (fallenBackTo? ms f.key) := by
  rw [resolveField_eq, stored?_writtenBy format, fallback?_writtenBy format]

/-- An object is decoded just if it has the format, and each URL is then the text
that is persisted for its key, or what the environment falls back to; unknown members
make no difference, and whatever else is no list is undecodable.  Keys whose surrogates
all have partners say texts, so for them `Keyed` holds. -/
theorem decode_and_resolve (text : String) :
    (∀ ms, IsDocument text (.object ms) →
      ((∃ e, Client.document decode (Utf8.encode text) = .ok e) ↔ HasFormat ms) ∧
      (∀ e, Client.document decode (Utf8.encode text) = .ok e →
        (∀ f : Field, e.resolveField f =
          firstNonempty (persisted? ms f.key) (fallenBackTo? ms f.key)) ∧
        ∀ text' ms' e', IsDocument text' (.object ms') → SameKnown ms ms' →
          Client.document decode (Utf8.encode text') = .ok e' →
          ∀ f : Field, e'.resolveField f = e.resolveField f) ∧
      (¬ HasFormat ms →
        ∃ reason, Client.document decode (Utf8.encode text) = .error (.undecodable reason))) ∧
    ((∀ v, IsDocument text v → (∀ ms, v ≠ .object ms) ∧ ∀ vs, v ≠ .list vs) →
      ∃ reason, Client.document decode (Utf8.encode text) = .error (.undecodable reason)) := by
  obtain ⟨means, law, written, other⟩ := exists_lawful
  have decoded {text : String} {ms : Members} (document : IsDocument text (.object ms))
      (e : Envelope) : Client.document decode (Utf8.encode text) = .ok e ↔
        HasFormat ms ∧ writtenBy ms = e :=
    (Client.document_eq_ok_iff law document).trans (written ms e)
  refine ⟨fun ms document => ⟨⟨?_, fun format => ?_⟩, fun e ok => ?_, fun noFormat => ?_⟩,
    fun noRecord => ?_⟩
  · rintro ⟨e, ok⟩
    exact ((decoded document e).1 ok).1
  · exact ⟨_, (decoded document _).2 ⟨format, rfl⟩⟩
  · obtain ⟨format, rfl⟩ := (decoded document e).1 ok
    refine ⟨resolveField_writtenBy format, fun text' ms' e' document' same ok' f => ?_⟩
    obtain ⟨format', rfl⟩ := (decoded document' e').1 ok'
    rw [resolveField_writtenBy format, resolveField_writtenBy format', same.persisted?,
      same.fallenBackTo?]
  · exact Client.document_of_nothing law document fun e said => noFormat ((written ms e).1 said).1
  · exact Client.document_of_no_value law fun v document =>
      other v (noRecord v document).1 (noRecord v document).2

/-- An envelope with an empty setting, an unknown member and a fallback. -/
def sparse : String :=
  "\x7b\"settings\":\x7b\"webhook_daily_report_url\":\x7b\"value\":\"\"\x7d\x7d,\"version\":0," ++
    "\"environment_fallbacks\":\x7b\"webhook_daily_report_url\":\"https://fallback\"\x7d\x7d"

/-- The members of that envelope. -/
def sparseMembers : Members :=
  [(some "settings", .object [(some "webhook_daily_report_url",
      .object [(some "value", .text (some ""))])]),
    (some "version", .number),
    (some "environment_fallbacks", .object [(some "webhook_daily_report_url",
      .text (some "https://fallback"))])]

theorem sparse_hasFormat : HasFormat sparseMembers where
  keyed := by simp [Keyed, sparseMembers]
  settingsOnce := Nat.le_refl 1
  settings := by
    simp [sparseMembers, valuesOf, IsOptionalDictionary, IsOptionalSetting, IsOptionalText, Keyed]
  fallbacksOnce := Nat.le_refl 1
  fallbacks := by simp [sparseMembers, valuesOf, IsOptionalDictionary, IsOptionalText, Keyed]

theorem decode_sparse :
    IsDocument sparse (.object sparseMembers) ∧ ∃ e : Envelope,
      Client.document decode (Utf8.encode sparse) = .ok e ∧
        e.resolveField .dailyReport = "https://fallback" := by
  have written : IsDocument sparse (.object sparseMembers) :=
    Json.isDocument_of_write (by decide +kernel)
  obtain ⟨accepted, meaning, _⟩ := (decode_and_resolve sparse).1 sparseMembers written
  obtain ⟨e, ok⟩ := accepted.2 sparse_hasFormat
  exact ⟨written, e, ok, ((meaning e ok).1 .dailyReport).trans (by decide +kernel)⟩

end Dashboard.Webhook.Envelope
