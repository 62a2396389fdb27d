import Dashboard.Session
import Mathlib.Data.Multiset.Filter

/-!
# The console and the world around it

A session does a job in one instant.  Here jobs take time.  The console, the
jobs it has handed out, the answers on their way back and the server with its
stored settings form a closed system, a `World`.  Jobs and answers are kept in
multisets: jobs may end in any order, and answers may arrive in any order.

## What the server promises

A load looks at the stored settings at one instant between its issue and its
end, and ends with what it saw or with an error.  A save that succeeds stores
its URLs at one instant between its issue and its end, and a save that fails
stores nothing.  A request for the status may end with any answer.

Somebody else may change the stored settings at any time, by `Step.elsewhere`,
and so a load may bring any settings.  What is proved about the form alone
holds all the same; that the form agrees with the server is proved of runs in
which nobody does, which are `Undisturbed`.

Noticing a withdrawal races with the answer, so a request that was withdrawn
may end without a word, by `Step.withdraw`, or may still be answered, by
`Step.finish`.

## Runs

`Run o history w` says that the world `w` is reached from the start `o` by the
steps of `history`.  The newest step comes first, so `newer ++ t :: older` is
a run in which `older` happened before `t` and `newer` after it.

## Main definitions

* `World`, `Move`, `Step` — the closed system and what can happen in it.
* `Origin`, `Transition`, `Run` — how it starts, and what has happened so far.
* `Transition.jobs`, `Transition.Edits`, `Transition.Applies`,
  `Transition.Reloads` — what happened in one step.
* `handedOut` — the jobs of a kind in the order of their issue.

## Main results

* `Run.invariant`, `Run.before`, `Run.since` — what steps keep holds of every
  run, before each of its steps, and ever since one of them.
* `Run.numbered` — what is numbered step by step is numbered without a gap.
-/

namespace Dashboard

open Webhook (Envelope Field LoadEnd Urls)

/-! ## The server -/

/-- The settings after these URLs were stored.  What was stored for a webhook
before is replaced, and all else stays. -/
def Webhook.Envelope.store (e : Envelope) (urls : Urls) : Envelope :=
  { e with
    settings := some <|
      ((e.settings.getD []).filter fun member => Field.all.all fun f => member.1 != f.key) ++
        Field.all.map fun f => (f.key, some ⟨some (urls.get f)⟩) }

/-- How far a job has come at the server. -/
inductive Progress where
  /-- The stored settings have not been touched for it. -/
  | issued
  /-- These settings were seen for it. -/
  | read (settings : Envelope)
  /-- Its URLs were stored. -/
  | stored
  deriving DecidableEq

/-- A job that was handed out and has not ended. -/
structure Task where
  job : Job
  progress : Progress
  deriving DecidableEq

/-- A job that was handed out just now. -/
def Task.new (job : Job) : Task := ⟨job, .issued⟩

/-- Whether a task may end with what a backend answers: a load brings what was
read for it or an error, and a save succeeds just if it was stored. -/
def Task.Allows (backend : Backend) : Task → Prop
  | ⟨.fetchStatus _, _⟩ => True
  | ⟨.fetchSettings _, progress⟩ => ∀ e, backend.settings = .ok e → progress = .read e
  | ⟨.saveSettings urls, progress⟩ => backend.save urls = .ok () ↔ progress = .stored

/-! ## Worlds -/

/-- An event that comes from the backend, and not from the keyboard. -/
inductive Answer where
  | status (generation : Nat) (result : Except ApiError ServerStatus)
  | settings (generation : Nat) (result : Except ApiError Envelope)
  | saved (result : Except ApiError Unit)

def Answer.event : Answer → Event
  | .status generation result => .statusLoaded generation result
  | .settings generation result => .settingsLoaded generation result
  | .saved result => .settingsSaved result

/-- The closed system. -/
structure World where
  console : Console
  /-- The jobs that have not ended. -/
  work : Multiset Task
  /-- The answers that have not arrived. -/
  mailbox : Multiset Answer
  /-- The settings that the server has stored. -/
  server : Envelope
  /-- The present instant, in nanoseconds. -/
  now : Nat

namespace World

def text (w : World) (f : Field) : String := w.console.form.urls.get f

/-- Takes over what the console did. -/
def adopt (w : World) (reaction : Console.Reaction) : World :=
  { w with
    console := reaction.state
    work := w.work + (reaction.value.map Task.new : List Task) }

theorem mem_work_adopt {w : World} {reaction : Console.Reaction} {task : Task} :
    task ∈ (w.adopt reaction).work ↔
      task ∈ w.work ∨ ∃ job ∈ reaction.value, Task.new job = task := by
  simp [adopt]

/-- Starts the console. -/
def start (w : World) : World := w.adopt (w.console.start w.now)

def handle (w : World) (event : Event) : World := w.adopt (w.console.update w.now event)

/-- Lets time pass; toasts whose time is over go away. -/
def wait (w : World) (elapsed : Nat) : World :=
  { w with now := w.now + elapsed, console := w.console.prune (w.now + elapsed) }

/-- Nothing is under way. -/
def Quiet (w : World) : Prop := w.work = 0 ∧ w.mailbox = 0

end World

/-- What can happen. -/
inductive Move where
  /-- The console starts. -/
  | start
  /-- A key is pressed. -/
  | key (key : Key) (modifiers : Modifiers)
  /-- Time passes. -/
  | wait
  /-- The stored settings are read or written for a job. -/
  | serve
  /-- Somebody else changes the stored settings. -/
  | elsewhere
  /-- A job ends with an answer. -/
  | finish (answer : Answer)
  /-- A request that was withdrawn ends without an answer. -/
  | withdraw (generation : Nat)
  /-- An answer arrives. -/
  | deliver (answer : Answer)

/-- The jobs that the console hands out in a move. -/
def Move.jobs (w : World) : Move → List Job
  | .start => (w.console.start w.now).value
  | .key k modifiers => (w.console.update w.now (.key k modifiers)).value
  | .deliver answer => (w.console.update w.now answer.event).value
  | .wait | .serve | .elsewhere | .finish _ | .withdraw _ => []

/-- The steps of a world. -/
inductive Step (w : World) : Move → World → Prop
  | start : Step w .start w.start
  | key (k : Key) (modifiers : Modifiers) : Step w (.key k modifiers) (w.handle (.key k modifiers))
  | wait (elapsed : Nat) : Step w .wait (w.wait elapsed)
  | read {generation : Nat} {rest : Multiset Task}
      (work : w.work = ⟨.fetchSettings generation, .issued⟩ ::ₘ rest) :
      Step w .serve
        { w with work := ⟨.fetchSettings generation, .read w.server⟩ ::ₘ rest }
  | store {urls : Urls} {rest : Multiset Task}
      (work : w.work = ⟨.saveSettings urls, .issued⟩ ::ₘ rest) :
      Step w .serve
        { w with
          work := ⟨.saveSettings urls, .stored⟩ ::ₘ rest
          server := w.server.store urls }
  | elsewhere (settings : Envelope) : Step w .elsewhere { w with server := settings }
  | finish {task : Task} {rest : Multiset Task} {backend : Backend} {answer : Answer}
      (work : w.work = task ::ₘ rest) (allowed : task.Allows backend)
      (answered : task.job.perform backend StatusCache.new = .answered answer.event) :
      Step w (.finish answer) { w with work := rest, mailbox := answer ::ₘ w.mailbox }
  | withdraw {generation : Nat} {progress : Progress} {rest : Multiset Task} {backend : Backend}
      (work : w.work = ⟨.fetchStatus generation, progress⟩ ::ₘ rest)
      (withdrawn : (Job.fetchStatus generation).perform backend w.console.cache = .withdrawn) :
      Step w (.withdraw generation) { w with work := rest }
  | deliver {answer : Answer} {rest : Multiset Answer}
      (mailbox : w.mailbox = answer ::ₘ rest) :
      Step w (.deliver answer) ({ w with mailbox := rest }.handle answer.event)

/-! ## Runs -/

/-- What is fixed before the console starts. -/
structure Origin where
  budget : Budget
  hasKey : Bool
  server : Envelope
  now : Nat

/-- The world before the console starts. -/
def Origin.world (o : Origin) : World :=
  ⟨Console.new o.budget o.hasKey, 0, 0, o.server, o.now⟩

/-- A start with a key, where the server has stored one URL. -/
def Origin.sample : Origin where
  budget := ⟨.nan, .nan⟩
  hasKey := true
  server := ⟨some [(Field.contentGenerated.key, some ⟨some "a"⟩)], none⟩
  now := 0

/-- A step that was taken. -/
structure Transition where
  source : World
  move : Move
  target : World

/-- The runs of the closed system, each with its steps, the newest first.  The
console starts first of all, and only once. -/
inductive Run (o : Origin) : List Transition → World → Prop
  | start : Run o [⟨o.world, .start, o.world.start⟩] o.world.start
  | step {history : List Transition} {w w' : World} {move : Move} :
      Run o history w → Step w move w' → move ≠ .start → Run o (⟨w, move, w'⟩ :: history) w'

/-! ### The sample once it has loaded -/

namespace Origin

/-- The sample when the server has read its settings for the first load. -/
def sampleRead : World :=
  { sample.world.start with
    work := {⟨.fetchSettings 1, .read sample.server⟩, .new (.fetchStatus 1)} }

/-- The sample when this load has ended. -/
def sampleAnswered : World :=
  { sampleRead with
    work := {.new (.fetchStatus 1)}
    mailbox := {.settings 1 (.ok sample.server)} }

/-- The sample when it has the stored settings. The status is still to be asked for. -/
def sampleLoaded : World :=
  { sampleAnswered with mailbox := 0 }.handle (.settingsLoaded 1 (.ok sample.server))

/-- What happened until the server had read its settings. -/
def readHistory : List Transition :=
  [⟨sample.world.start, .serve, sampleRead⟩, ⟨sample.world, .start, sample.world.start⟩]

/-- What happened until the settings were there. -/
def loadedHistory : List Transition :=
  ⟨sampleAnswered, .deliver (.settings 1 (.ok sample.server)), sampleLoaded⟩ ::
    ⟨sampleRead, .finish (.settings 1 (.ok sample.server)), sampleAnswered⟩ :: readHistory

end Origin

theorem Run.sampleRead : Run .sample Origin.readHistory Origin.sampleRead :=
  Run.start.step (@Step.read _ 1 {.new (.fetchStatus 1)} (by decide)) nofun

/-- **The first load of the sample** goes well. -/
theorem Run.sampleLoaded : Run .sample Origin.loadedHistory Origin.sampleLoaded := by
  let stored := Origin.sample.server
  let backend : Backend := ⟨none, .ok stored, fun _ => .ok ()⟩
  have answered := Run.sampleRead.step (@Step.finish _ ⟨.fetchSettings 1, .read stored⟩
    {.new (.fetchStatus 1)} backend (.settings 1 (.ok stored)) rfl
    (fun e same => by cases same; rfl) rfl) nofun
  exact answered.step (@Step.deliver _ (.settings 1 (.ok stored)) 0 rfl) nofun

/-- What holds before the start and is kept by each step holds of every run. -/
theorem Run.induct {o : Origin} {P : List Transition → World → Prop} (origin : P [] o.world)
    (step : ∀ {history : List Transition} {w w' : World} {move : Move},
      P history w → Step w move w' → P (⟨w, move, w'⟩ :: history) w')
    {history : List Transition} {w : World} (run : Run o history w) : P history w := by
  induction run with
  | start => exact step origin .start
  | step _ taken _ ih => exact step ih taken

/-- What holds of a world before the start and is kept by each step holds of
every world that is reached. -/
theorem Run.invariant {o : Origin} {P : World → Prop} (origin : P o.world)
    (step : ∀ {w w' : World} {move : Move}, P w → Step w move w' → P w')
    {history : List Transition} {w : World} (run : Run o history w) : P w :=
  run.induct (P := fun _ => P) origin step

/-- What happened up to some step is a run that ends with this step. -/
theorem Run.of_append {o : Origin} {newer older : List Transition} {t : Transition} {w : World}
    (run : Run o (newer ++ t :: older) w) : Run o (t :: older) t.target := by
  induction newer generalizing w with
  | nil =>
      cases run with
      | start => exact .start
      | step before taken other => exact .step before taken other
  | cons u newer ih =>
      rw [List.cons_append] at run
      generalize hrest : newer ++ t :: older = rest at run
      cases run with
      | start => simp at hrest
      | step before _ _ => exact ih (hrest ▸ before)

/-- What holds right after a step of a run and is kept by each step after it
holds ever since. -/
theorem Run.since {o : Origin} {P : List Transition → World → Prop} {t : Transition}
    {older : List Transition} (base : P [] t.target)
    (step : ∀ {newer : List Transition} {w w' : World} {move : Move},
      Run o (newer ++ t :: older) w → P newer w → Step w move w' → move ≠ .start →
        P (⟨w, move, w'⟩ :: newer) w')
    {newer : List Transition} {w : World} (run : Run o (newer ++ t :: older) w) : P newer w := by
  induction newer generalizing w with
  | nil =>
      cases run with
      | start => exact base
      | step _ _ _ => exact base
  | cons u newer ih =>
      rw [List.cons_append] at run
      generalize hrest : newer ++ t :: older = rest at run
      cases run with
      | start => simp at hrest
      | step before taken other =>
          subst hrest
          exact step before (ih before) taken other

/-- What happened after a step of a run was a step, and not the start. -/
theorem Run.steps_since {o : Origin} {newer older : List Transition} {t : Transition} {w : World}
    (run : Run o (newer ++ t :: older) w) :
    ∀ u ∈ newer, Step u.source u.move u.target ∧ u.move ≠ .start := by
  refine Run.since
    (P := fun newer _ => ∀ u ∈ newer, Step u.source u.move u.target ∧ u.move ≠ .start) ?_ ?_ run
  · exact fun _ hu => absurd hu List.not_mem_nil
  · intro newer w w' move _ ih step other u hu
    rcases List.mem_cons.1 hu with rfl | hu
    · exact ⟨step, other⟩
    · exact ih u hu

/-- What holds before the start and is kept by each step held before every
step that was taken. -/
theorem Run.before {o : Origin} {P : World → Prop} (origin : P o.world)
    (step : ∀ {w w' : World} {move : Move}, P w → Step w move w' → P w')
    {history : List Transition} {w : World} (run : Run o history w) :
    ∀ t ∈ history, P t.source := by
  have both : P w ∧ ∀ t ∈ history, P t.source := by
    refine run.induct (P := fun history w => P w ∧ ∀ t ∈ history, P t.source)
      ⟨origin, fun _ ht => absurd ht List.not_mem_nil⟩ ?_
    intro history w w' move ih taken
    refine ⟨step ih.1 taken, fun t ht => ?_⟩
    rcases List.mem_cons.1 ht with rfl | ht
    · exact ih.1
    · exact ih.2 t ht
  exact both.2

theorem Run.head_step {o : Origin} {older : List Transition} {t : Transition} {w : World}
    (run : Run o (t :: older) w) : Step t.source t.move t.target := by
  cases run with
  | start => exact .start
  | step _ taken _ => exact taken

theorem Run.step_of_mem {o : Origin} {history : List Transition} {w : World}
    (run : Run o history w) {t : Transition} (ht : t ∈ history) :
    Step t.source t.move t.target := by
  obtain ⟨newer, older, rfl⟩ := List.append_of_mem ht
  exact run.of_append.head_step

theorem Step.waiting_of_deliver {w w' : World} {answer : Answer}
    (step : Step w (.deliver answer) w') : answer ∈ w.mailbox := by
  cases step with
  | deliver mailbox => exact mailbox ▸ Multiset.mem_cons_self _ _

/-- An answer was on its way before it arrived. -/
theorem Run.arrived {o : Origin} {history : List Transition} {w : World} (run : Run o history w)
    {t : Transition} (ht : t ∈ history) {answer : Answer} (arrived : t.move = .deliver answer) :
    answer ∈ t.source.mailbox := by
  have step := run.step_of_mem ht
  rw [arrived] at step
  exact step.waiting_of_deliver

/-- An answer on its way was sent when its job ended. -/
theorem Run.sent_of_mailbox {o : Origin} {history : List Transition} {w : World}
    (run : Run o history w) {answer : Answer} (waiting : answer ∈ w.mailbox) :
    ∃ t ∈ history, t.move = .finish answer := by
  refine run.induct (P := fun history w => answer ∈ w.mailbox →
    ∃ t ∈ history, t.move = .finish answer) ?_ ?_ waiting
  · intro none
    exact absurd none (Multiset.notMem_zero _)
  intro history w w' move ih step waiting
  have earlier (old : answer ∈ w.mailbox) :
      ∃ t ∈ ⟨w, move, w'⟩ :: history, t.move = .finish answer := by
    obtain ⟨t, ht, sent⟩ := ih old
    exact ⟨t, List.mem_cons_of_mem _ ht, sent⟩
  cases step with
  | start | key | wait | read | store | elsewhere | withdraw => exact earlier waiting
  | deliver mailbox => exact earlier (mailbox ▸ Multiset.mem_cons_of_mem waiting)
  | finish =>
      rcases Multiset.mem_cons.1 waiting with rfl | old
      · exact ⟨_, List.mem_cons_self, rfl⟩
      · exact earlier old

/-! ## What happened in a step -/

namespace Transition

/-- The jobs that the console handed out. -/
def jobs (t : Transition) : List Job := t.move.jobs t.source

/-- A key press changed the URL of a webhook. -/
def Edits (t : Transition) (f : Field) : Prop :=
  (∃ key modifiers, t.move = .key key modifiers) ∧ t.target.text f ≠ t.source.text f

/-- The answer to a load arrived, and this is what became of it. -/
def Takes (t : Transition) (generation : Nat) (result : Except ApiError Envelope)
    (ending : LoadEnd) : Prop :=
  t.move = .deliver (.settings generation result) ∧
    (t.source.console.form.finishLoad generation result).value = ending

/-- The settings that a load brought became the working copy. -/
def Applies (t : Transition) (generation : Nat) (settings : Envelope) : Prop :=
  t.Takes generation (.ok settings) .applied

/-- The key that reloads the settings was pressed where it does so. -/
def Reloads (t : Transition) : Prop :=
  t.source.console.mode = .viewing ∧ ∃ modifiers, t.move = .key (.char 'R') modifiers

/-- The news that a save had succeeded arrived. -/
def Saves (t : Transition) : Prop := t.move = .deliver (.saved (.ok ()))

end Transition

/-! ## What was handed out -/

/-- What is picked from the jobs that were handed out, the newest first. -/
def handedOut {α : Type} (pick : Job → Option α) (history : List Transition) : List α :=
  history.flatMap fun t => t.jobs.reverse.filterMap pick

section HandedOut

variable {α : Type} {pick : Job → Option α} {history : List Transition}

theorem handedOut_cons (t : Transition) :
    handedOut pick (t :: history) = t.jobs.reverse.filterMap pick ++ handedOut pick history :=
  List.flatMap_cons

theorem mem_handedOut {a : α} :
    a ∈ handedOut pick history ↔ ∃ t ∈ history, ∃ job ∈ t.jobs, pick job = some a := by
  simp [handedOut]

end HandedOut

/-- A step hands out no job that counts, or one whose number is the next one. -/
def Step.Numbers (pick : Job → Option Nat) (counter : World → Nat) : Prop :=
  ∀ {w w' : World} {move : Move}, Step w move w' →
    (counter w' = counter w ∧ (move.jobs w).reverse.filterMap pick = []) ∨
      (counter w' = counter w + 1 ∧ (move.jobs w).reverse.filterMap pick = [counter w'])

/-- **Numbers are handed out one by one**, from one on, and at most one in a
step. -/
theorem Run.numbered {pick : Job → Option Nat} {counter : World → Nat}
    (numbers : Step.Numbers pick counter) {o : Origin} (zero : counter o.world = 0)
    {history : List Transition} {w : World} (run : Run o history w) :
    handedOut pick history = (List.range' 1 (counter w)).reverse ∧
      counter w ≤ history.length := by
  refine run.induct (P := fun history w =>
    handedOut pick history = (List.range' 1 (counter w)).reverse ∧
      counter w ≤ history.length) ?_ ?_
  · rw [zero]
    exact ⟨rfl, le_rfl⟩
  rintro history w w' move ⟨listed, bound⟩ step
  rw [handedOut_cons, List.length_cons, listed]
  show (move.jobs w).reverse.filterMap pick ++ _ = _ ∧ _
  obtain ⟨same, none⟩ | ⟨next, one⟩ := numbers step
  · rw [none, same]
    exact ⟨rfl, Nat.le_succ_of_le bound⟩
  · rw [one, next, List.range'_concat, List.reverse_append]
    refine ⟨?_, Nat.succ_le_succ bound⟩
    simp [Nat.add_comm]

/-- A number that was handed out is not larger than the counter. -/
theorem Run.le_counter {pick : Job → Option Nat} {counter : World → Nat}
    (numbers : Step.Numbers pick counter) {o : Origin} (zero : counter o.world = 0)
    {history : List Transition} {w : World} (run : Run o history w) {number : Nat}
    (issued : number ∈ handedOut pick history) : number ≤ counter w := by
  rw [(run.numbered numbers zero).1, List.mem_reverse, List.mem_range'_1] at issued
  omega

/-- The counter never goes back. -/
theorem Run.counter_le_since {pick : Job → Option Nat} {counter : World → Nat}
    (numbers : Step.Numbers pick counter) {o : Origin} {newer older : List Transition}
    {t : Transition} {w : World} (run : Run o (newer ++ t :: older) w) :
    counter t.target ≤ counter w := by
  refine Run.since (P := fun _ w => counter t.target ≤ counter w) le_rfl ?_ run
  intro newer w w' move _ ih step _
  have next := numbers step
  omega

/-- Nobody else changed the stored settings. -/
def Undisturbed (history : List Transition) : Prop := ∀ t ∈ history, t.move ≠ .elsewhere

end Dashboard
