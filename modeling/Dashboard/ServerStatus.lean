import Dashboard.Json.Record

/-!
# The status of the server

What the server tells everyone about its configuration: which of its keys
are set and which of its subsystems are active.

## Main definitions

* `ServerStatus`, `Features` — the document.
* `ServerStatus.decode` — the document read from a body.
* `ServerStatus.alert?` — what to say when a key is missing.
* `Features.rows` — one row per subsystem.
* `joinList` — items joined as in a sentence.
-/

namespace Dashboard

/-- The subsystems of the server and whether they are active. -/
structure Features where
  redis : Bool
  anthropic : Bool
  webhooks : Bool
  budget : Bool
  dailyLimit : Bool
  deriving DecidableEq

/-- What the server tells about its configuration. -/
structure ServerStatus where
  apiKeyConfigured : Bool
  openaiConfigured : Bool
  features : Features
  deriving DecidableEq

/-! ## The document -/

namespace Features

/-- The key of each flag, in the order of their declaration. -/
def key : Fin 5 → String
  | 0 => "redis_enabled"
  | 1 => "anthropic_enabled"
  | 2 => "webhooks_configured"
  | 3 => "budget_enforced"
  | 4 => "daily_limit_enforced"

/-- The document of the flags: five members, none of which may be left out. -/
def record : Json.Record fun _ : Fin 5 => Bool where
  name := "FeatureFlags"
  member i := ⟨key i, Json.flag, none⟩

/-- Reads the flags. -/
def read : Json.Reader Features :=
  record.read.map fun flags => ⟨flags 0, flags 1, flags 2, flags 3, flags 4⟩

end Features

namespace ServerStatus

/-- The kinds of the three members. -/
def Part : Fin 3 → Type
  | 0 => Bool
  | 1 => Bool
  | 2 => Features

/-- The document of the status: three members, none of which may be left
out. -/
def record : Json.Record Part where
  name := "PublicConfigResponse"
  member
    | 0 => ⟨"api_key_configured", Json.flag, none⟩
    | 1 => ⟨"openai_configured", Json.flag, none⟩
    | 2 => ⟨"features", Features.read, none⟩

/-- Reads the status. -/
def read : Json.Reader ServerStatus :=
  record.read.map fun parts => ⟨parts 0, parts 1, parts 2⟩

/-- The status that a body holds. -/
def decode (body : Bytes) : Except Json.Failure ServerStatus := Json.decode read body

end ServerStatus

/-! ## What is shown of it -/

/-- Items joined as in a sentence: commas between them and a word in front
of the last. -/
def joinList : List String → String
  | [] => ""
  | [only] => only
  | [first, last] => first ++ " and " ++ last
  | first :: rest => first ++ ", " ++ joinList rest

namespace ServerStatus

/-- The keys of the server that are not set. -/
def missingKeys (s : ServerStatus) : List String :=
  (if s.apiKeyConfigured then [] else ["API key"]) ++
    (if s.openaiConfigured then [] else ["OpenAI API key"])

/-- The alert for keys that are not set. -/
def alert? (s : ServerStatus) : Option String :=
  if s.missingKeys = [] then none
  else some (joinList s.missingKeys ++ " not configured on the server.")

end ServerStatus

/-- What is shown of one subsystem. -/
structure FeatureRow where
  label : String
  description : String
  enabled : Bool

/-- One row per subsystem, in the order in which they are shown. -/
def Features.rows (f : Features) : List FeatureRow :=
  [⟨"Redis caching", "Caches AI responses to cut repeat generation costs", f.redis⟩,
   ⟨"Anthropic provider", "Secondary AI provider for content generation", f.anthropic⟩,
   ⟨"Webhooks", "Outbound event notifications to automation services", f.webhooks⟩,
   ⟨"Budget enforcement", "Blocks generation once the monthly budget is spent", f.budget⟩,
   ⟨"Daily limit", "Caps the number of generations per day", f.dailyLimit⟩]

end Dashboard
