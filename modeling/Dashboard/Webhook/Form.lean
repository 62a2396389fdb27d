import Dashboard.ApiError
import Dashboard.Webhook.Document

/-!
# The webhook form

The working copy of the URLs, and the loads and saves around it.

## Why loads are numbered

Loads may be answered in any order. Each one issued takes the next number,
its **generation**, and only the answer to the latest one is applied; the
answers to older ones are dropped. A save is not numbered, because there is
at most one at a time: `beginSave` refuses a second one, and refuses to post
a working copy that a load is about to replace.

## Main definitions

* `Form` — the working copy and the state of its requests.
* `Form.beginLoad`, `Form.finishLoad`, `Form.beginSave`, `Form.finishSave`.
-/

namespace Dashboard.Webhook

/-- The working copy of the URLs and the state of its requests. -/
structure Form where
  urls : Urls
  saving : Bool
  loading : Bool
  /-- The generation of the latest load, zero before the first. -/
  latestLoad : Nat
  /-- Whether it was said already that no key is configured. -/
  keyWarned : Bool
  deriving DecidableEq

/-- What became of the wish to load. -/
inductive LoadStart where
  /-- A load was issued with this generation. -/
  | issue (generation : Nat)
  /-- There is no key; `warn` says whether this is the first time. -/
  | missingKey (warn : Bool)
  deriving DecidableEq

/-- What became of the answer to a load. -/
inductive LoadEnd where
  | applied
  | failed (error : ApiError)
  /-- A newer load had been issued, and the answer was dropped. -/
  | stale
  deriving DecidableEq

/-- What became of the wish to save. -/
inductive SaveStart where
  /-- A save of these URLs was issued. -/
  | issue (urls : Urls)
  /-- Another save is in flight. -/
  | inFlight
  /-- A load is about to replace the working copy. -/
  | loading
  | missingKey
  deriving DecidableEq

/-- What became of a save. -/
inductive SaveEnd where
  | saved
  | failed (error : ApiError)
  deriving DecidableEq

namespace Form

/-- Nothing was loaded and nothing is in flight. -/
def new : Form := ⟨Urls.empty, false, false, 0, false⟩

instance : Inhabited Form := ⟨new⟩

/-- Asks for the stored URLs. -/
def beginLoad (f : Form) (hasKey : Bool) : LoadStart × Form :=
  if hasKey then
    (.issue (f.latestLoad + 1), { f with latestLoad := f.latestLoad + 1, loading := true })
  else (.missingKey !f.keyWarned, { f with loading := false, keyWarned := true })

/-- The line logged for the answer to a load that is not the latest. -/
def staleLine (generation latest : Nat) : LogLine :=
  ⟨.debug, "discarding stale settings load",
    [("generation", toString generation), ("latest", toString latest)]⟩

/-- Takes the answer to a load. -/
def finishLoad (f : Form) (generation : Nat) (result : Except ApiError Envelope) :
    Outcome Form LoadEnd :=
  if generation ≠ f.latestLoad then ⟨f, .stale, [staleLine generation f.latestLoad]⟩
  else match result with
    | .ok envelope => .silent { f with loading := false, urls := envelope.resolve } .applied
    | .error e => .silent { f with loading := false } (.failed e)

/-- Asks for the working copy to be stored. -/
def beginSave (f : Form) (hasKey : Bool) : SaveStart × Form :=
  if !hasKey then (.missingKey, f)
  else if f.saving then (.inFlight, f)
  else if f.loading then (.loading, f)
  else (.issue f.urls, { f with saving := true })

/-- Takes the answer to a save. -/
def finishSave (f : Form) (result : Except ApiError Unit) : SaveEnd × Form :=
  (match result with
    | .ok () => .saved
    | .error e => .failed e,
   { f with saving := false })

end Form

end Dashboard.Webhook
