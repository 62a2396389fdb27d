import Dashboard.Console.Update

/-!
# Sessions

A session is a console together with its work: the jobs that it handed out
and that nobody has taken on yet, and the requests that were sent and are
not answered yet.

## Withdrawn requests

Before a request for the server status is sent, and as long as it waits for
its answer, its withdrawal ends it without an event. Other jobs always end
in an event.

## Main definitions

* `Session`, `Session.handle` — an event and what it leads to.
* `Session.run` — one job is done.
* `Session.poll` — the waiting requests are looked at.
* `Session.dispatch` — all jobs are done.
-/

namespace Dashboard

open Webhook (Envelope Urls)

/-! ## Doing a job -/

/-- How the backend answers. -/
structure Backend where
  /-- Nothing if the answer does not come. -/
  status : Option (Except ApiError ServerStatus)
  settings : Except ApiError Envelope
  /-- What becomes of these URLs when they are posted. -/
  save : Urls → Except ApiError Unit

/-- What becomes of a job. -/
inductive Completion where
  /-- The request had been withdrawn. -/
  | withdrawn
  /-- The request was sent and is not answered yet. -/
  | waiting
  | answered (event : Event)

/-- Does a job; a request for the status is dropped if it was withdrawn. -/
def Job.perform (job : Job) (backend : Backend) (cache : StatusCache) : Completion :=
  match job with
  | .fetchStatus generation =>
    if cache.isWithdrawn generation then .withdrawn
    else match backend.status with
      | some result => .answered (.statusLoaded generation result)
      | none => .waiting
  | .fetchSettings generation => .answered (.settingsLoaded generation backend.settings)
  | .saveSettings urls => .answered (.settingsSaved (backend.save urls))

/-- The line logged when a withdrawn request ends. -/
def withdrawnLine (generation : Nat) : LogLine :=
  ⟨.debug, "public config fetch cancelled", [("generation", toString generation)]⟩

/-! ## Sessions -/

/-- A console and its work. -/
structure Session where
  console : Console
  /-- Jobs that nobody has taken on, oldest first. -/
  pending : List Job
  /-- The generations of the requests that wait for an answer, oldest
  first. -/
  waiting : List Nat
  /-- The present instant, in nanoseconds. -/
  now : Nat

namespace Session

/-- A console that has not done anything yet. -/
def new (console : Console) : Session := ⟨console, [], [], 0⟩

/-- Takes over what the console did; the answer is the new jobs. -/
def adopt (s : Session) (reaction : Console.Reaction) : Outcome Session (List Job) :=
  ⟨{ s with console := reaction.state, pending := s.pending ++ reaction.value },
    reaction.value, reaction.log⟩

/-- Starts the console. -/
def start (s : Session) : Outcome Session (List Job) := s.adopt (s.console.start s.now)

/-- Lets the console react to an event. -/
def handle (s : Session) (event : Event) : Outcome Session (List Job) :=
  s.adopt (s.console.update s.now event)

/-- Lets the console react to events, one after another. -/
def handleAll (s : Session) : List Event → Outcome Session (List Job)
  | [] => .silent s []
  | event :: events =>
    let first := s.handle event
    let others := first.state.handleAll events
    ⟨others.state, first.value ++ others.value, first.log ++ others.log⟩

/-- Types characters, one after another and without modifiers. -/
def type (s : Session) (text : List Char) : Outcome Session (List Job) :=
  s.handleAll (text.map fun c => .key (.char c) .none)

/-! ## Work -/

/-- A job that was done, and the jobs it led to. -/
structure Run where
  job : Job
  completion : Completion
  jobs : List Job

/-- Does the pending job at an index, or the last one if the index is past
it. Nothing is done if no job is pending. -/
def run (s : Session) (index : Nat) (backend : Backend) : Outcome Session (Option Run) :=
  let place := min index (s.pending.length - 1)
  match s.pending[place]? with
  | none => .silent s none
  | some job =>
    let taken := { s with pending := s.pending.eraseIdx place }
    let completion := job.perform backend s.console.cache
    match completion, job with
    | .answered event, _ =>
      let after := taken.handle event
      ⟨after.state, some ⟨job, completion, after.value⟩, after.log⟩
    | .waiting, .fetchStatus generation =>
      .silent { taken with waiting := taken.waiting ++ [generation] } (some ⟨job, completion, []⟩)
    | .withdrawn, .fetchStatus generation =>
      ⟨taken, some ⟨job, completion, []⟩, [withdrawnLine generation]⟩
    | _, _ => .silent taken (some ⟨job, completion, []⟩)

/-- Looks at the waiting requests; the answer says of each whether it was
withdrawn. Withdrawn requests end. -/
def poll (s : Session) : Outcome Session (List Bool) :=
  let cache := s.console.cache
  ⟨{ s with waiting := s.waiting.filter fun g => !cache.isWithdrawn g },
    s.waiting.map cache.isWithdrawn,
    (s.waiting.filter cache.isWithdrawn).map withdrawnLine⟩

/-- All pending jobs done at once: the calls that were made, the events they
led to, and the new jobs. -/
structure Dispatch where
  calls : List Job
  events : List Event
  jobs : List Job

/-- The jobs by their kind: requests for the status, loads, saves. -/
def byKind (jobs : List Job) : List Job :=
  (jobs.filter fun | .fetchStatus _ => true | _ => false) ++
    (jobs.filter fun | .fetchSettings _ => true | _ => false) ++
    (jobs.filter fun | .saveSettings _ => true | _ => false)

/-- Does all pending jobs, except requests that were withdrawn, and then
lets the console react to the answers, kind by kind. -/
def dispatch (s : Session) (backend : Backend) : Outcome Session Dispatch :=
  let cache := s.console.cache
  let calls := byKind <| s.pending.filter fun
    | .fetchStatus generation => !cache.isWithdrawn generation
    | _ => true
  let completions := calls.map fun job => (job, job.perform backend cache)
  let events := completions.filterMap fun
    | (_, .answered event) => some event
    | _ => none
  let unanswered := completions.filterMap fun
    | (.fetchStatus generation, .waiting) => some generation
    | _ => none
  let after := { s with pending := [], waiting := s.waiting ++ unanswered }.handleAll events
  ⟨after.state, ⟨calls, events, after.value⟩, after.log⟩

end Session

end Dashboard
