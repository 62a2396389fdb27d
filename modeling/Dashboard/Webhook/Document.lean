import Dashboard.Json.Record
import Dashboard.Webhook.Field

/-!
# The documents of the webhook settings

The three URLs are posted as one flat document. They come back in an
envelope, which holds the stored settings, each with a value that may be
missing, beside the values that the environment of the server falls back to.

## Main definitions

* `Urls.body` — the document that is posted.
* `Urls.decode` — the same document read back.
* `Envelope`, `Envelope.decode` — the document that is fetched.
* `Envelope.resolve` — the URLs it stands for.
-/

namespace Dashboard.Webhook

/-! ## Posting -/

namespace Urls

/-- The document of the URLs, without blanks and with its members in the
order of the fields. -/
def document (u : Urls) : String :=
  String.ofList <| '\x7b' ::
    ((Field.all.map fun f => Json.quote f.key ++ ':' :: Json.quote (u.get f)).intersperse [',']).flatten
      ++ ['\x7d']

/-- The bytes that are posted. -/
def body (u : Urls) : Bytes := Utf8.encode u.document

/-- The webhook that belongs to each member. -/
def memberField : Fin 3 → Field
  | 0 => .contentGenerated
  | 1 => .contentPublished
  | 2 => .dailyReport

/-- The document of the URLs as it is read: three members, none of which may
be left out. -/
def record : Json.Record fun _ : Fin 3 => String where
  name := "WebhookSettings"
  member i := ⟨(memberField i).key, Json.string, none⟩

/-- Reads the URLs. -/
def read : Json.Reader Urls :=
  record.read.map fun urls =>
    (List.finRange 3).foldl (fun read i => read.set (memberField i) (urls i)) empty

/-- The URLs that a body holds. -/
def decode (body : Bytes) : Except Json.Failure Urls := Json.decode read body

end Urls

/-! ## Fetching -/

/-- A stored setting. -/
structure Setting where
  value : Option String
  deriving DecidableEq

/-- The stored settings and the values that the environment falls back to.
Each is a dictionary, kept with its members in the order in which they were
written; a key that comes twice means its last value. -/
structure Envelope where
  settings : Option (List (String × Option Setting))
  fallbacks : Option (List (String × Option String))
  deriving DecidableEq

namespace Envelope

/-- Nothing is stored and nothing to fall back to. -/
def empty : Envelope := ⟨none, none⟩

instance : Inhabited Envelope := ⟨empty⟩

/-- The document of a stored setting. -/
def settingRecord : Json.Record fun _ : Fin 1 => Option String where
  name := "PersistedSetting"
  member _ := ⟨"value", Json.optional Json.string, some none⟩

/-- Reads a stored setting. -/
def readSetting : Json.Reader Setting := settingRecord.read.map fun values => ⟨values 0⟩

/-- The kinds of the two members. -/
def Part : Fin 2 → Type
  | 0 => Option (List (String × Option Setting))
  | 1 => Option (List (String × Option String))

/-- The document of an envelope; both members may be left out. -/
def record : Json.Record Part where
  name := "SettingsEnvelope"
  member
    | 0 => ⟨"settings", Json.optional (Json.dictionary (Json.optional readSetting)), some none⟩
    | 1 => ⟨"environment_fallbacks", Json.optional (Json.dictionary (Json.optional Json.string)),
        some none⟩

/-- Reads an envelope. -/
def read : Json.Reader Envelope := record.read.map fun parts => ⟨parts 0, parts 1⟩

/-- The envelope that a body holds. -/
def decode (body : Bytes) : Except Json.Failure Envelope := Json.decode read body

/-! ## Resolving -/

/-- A text, unless it is empty. -/
def nonempty? (text : Option String) : Option String :=
  text.filter (· ≠ "")

/-- The value that is stored for a key. -/
def stored? (e : Envelope) (key : String) : Option String :=
  (e.settings.bind (Json.lookup? key)).join.bind (·.value)

/-- The value that the environment has for a key. -/
def fallback? (e : Envelope) (key : String) : Option String :=
  (e.fallbacks.bind (Json.lookup? key)).join

/-- The URL of a webhook: the stored value, else the fallback, else none.
An empty value counts as missing. -/
def resolveField (e : Envelope) (f : Field) : String :=
  ((nonempty? (e.stored? f.key)).or (nonempty? (e.fallback? f.key))).getD ""

/-- The URLs of all webhooks. -/
def resolve (e : Envelope) : Urls := Urls.ofFields e.resolveField

end Envelope

end Dashboard.Webhook
