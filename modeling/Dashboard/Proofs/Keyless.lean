import Dashboard.Proofs.FirstLoad
import Dashboard.Proofs.StatusRequests

/-!
# The console without a key

The settings are behind an API key, and the status of the server is not.  A console
that was started without a key asks for the status as any other, and for the settings
never.  There are three ways to a load and two ways to a save, in two modes, but each
ends in `Form.beginLoad` or `Form.beginSave`, so `Effect` has them all.

Without jobs there are no answers, so what the form holds was typed.

What becomes of the status is known from the `operations` of a run, which are taken
from the moves and the modes, and not from the key.

## Main results

* `Effect.keyless` — no step leads to a load or a save without a key.
* `Run.cache_eq_after` — the cache of any run is known from its operations.
* `Run.without_key` — what a run without a key does, and what it does not do.
-/

namespace Dashboard

open StatusCache (Operation)
open Webhook (Envelope Form Urls)

/-! ## Steps without a key -/

/-- No load was ever issued, and nothing is under way. -/
structure Webhook.Form.AtRest (f : Form) : Prop where
  loading : f.loading = false
  saving : f.saving = false
  latestLoad : f.latestLoad = 0

theorem Webhook.Form.AtRest.finishLoad {f : Form} (h : f.AtRest) (generation : Nat)
    (result : Except ApiError Envelope) : (f.finishLoad generation result).state.AtRest := by
  by_cases latest : generation = f.latestLoad
  · subst latest
    cases result with
    | ok e =>
        rw [Form.finishLoad_ok]
        exact ⟨rfl, h.saving, h.latestLoad⟩
    | error e =>
        rw [Form.finishLoad_error]
        exact ⟨rfl, h.saving, h.latestLoad⟩
  · rw [Form.finishLoad_stale latest]
    exact h

/-- **No step leads to a load or a save without a key.** -/
theorem Effect.keyless {d d' : Desk} {move : Move} {jobs : List Job}
    (effect : Effect d move d' jobs) (keyless : d.hasKey = false) (rest : d.form.AtRest) :
    d'.form.AtRest ∧ ∀ job ∈ jobs, ∃ generation, job = .fetchStatus generation := by
  cases effect with
  | silent _ | select _ | enter _ _ | leave | status => exact ⟨rest, nofun⟩
  | edit _ _ => exact ⟨⟨rest.loading, rest.saving, rest.latestLoad⟩, nofun⟩
  | unsaved => exact ⟨⟨rest.loading, rfl, rest.latestLoad⟩, nofun⟩
  | loaded => exact ⟨rest.finishLoad _ _, nofun⟩
  | steer calm => exact ⟨rest, calm⟩
  | load _ =>
      rw [keyless]
      exact ⟨⟨rfl, rest.saving, rest.latestLoad⟩, nofun⟩
  | save _ =>
      rw [keyless]
      exact ⟨rest, nofun⟩
  | start =>
      rw [keyless]
      exact ⟨⟨rfl, rest.saving, rest.latestLoad⟩, fun job hjob => ⟨_, List.mem_singleton.1 hjob⟩⟩
  | saved =>
      rw [keyless]
      exact ⟨⟨rfl, rfl, rest.latestLoad⟩, fun job hjob => ⟨_, List.mem_singleton.1 hjob⟩⟩

/-! ## Runs without a key -/

/-- A world without a key, in which nothing but the status was ever asked for. -/
structure World.Keyless (w : World) : Prop where
  hasKey : w.desk.hasKey = false
  rest : w.desk.form.AtRest
  flying : ∀ request ∈ w.inFlight, ∃ generation, request = .status generation

theorem Step.keyless {w w' : World} {move : Move} (step : Step w move w') (h : w.Keyless) :
    w'.Keyless := by
  obtain ⟨rest, calm⟩ := step.effect.keyless h.hasKey h.rest
  refine ⟨step.effect.hasKey.trans h.hasKey, rest, fun request flying => ?_⟩
  have balanced : request ∈ w.inFlight + ((move.jobs w).map Job.request : List Request) := by
    rw [← step.balance]
    exact Multiset.mem_add.2 (.inl flying)
  rcases Multiset.mem_add.1 balanced with old | new
  · exact h.flying request old
  · obtain ⟨job, hjob, rfl⟩ := List.mem_map.1 (Multiset.mem_coe.1 new)
    obtain ⟨generation, rfl⟩ := calm job hjob
    exact ⟨generation, rfl⟩

section Runs

variable {o : Origin} {history : List Transition} {w : World}

theorem Origin.keyless (keyless : o.hasKey = false) : o.world.Keyless :=
  ⟨keyless, ⟨rfl, rfl, rfl⟩, fun _ flying => absurd flying (Multiset.notMem_zero _)⟩

theorem Run.stays_keyless (run : Run o history w) (keyless : o.hasKey = false) : w.Keyless :=
  run.invariant (P := World.Keyless) (Origin.keyless keyless) fun h step => step.keyless h

theorem Run.keyless_before (run : Run o history w) (keyless : o.hasKey = false) :
    ∀ t ∈ history, t.source.Keyless :=
  run.before (P := World.Keyless) (Origin.keyless keyless) fun h step => step.keyless h

/-- Without a key nothing is answered but requests for the status. -/
theorem Run.status_of_deliver (run : Run o history w) (keyless : o.hasKey = false)
    {t : Transition} (ht : t ∈ history) {answer : Answer} (arrived : t.move = .deliver answer) :
    ∃ generation result, answer = .status generation result := by
  obtain ⟨generation, request⟩ := (run.keyless_before keyless t ht).flying _
    (World.request_mem_of_mailbox (run.arrived ht arrived))
  cases answer with
  | status generation result => exact ⟨generation, result, rfl⟩
  | settings _ _ | saved _ => cases request

theorem Run.unloaded_of_keyless (run : Run o history w) (keyless : o.hasKey = false) :
    ¬ Loaded history := by
  rintro ⟨t, ht, generation, e, arrived, _⟩
  obtain ⟨_, _, other⟩ := run.status_of_deliver keyless ht arrived
  cases other

/-! ## The status -/

/-- What a step did with the cache, if anything. -/
def Transition.operation? (t : Transition) : Option Operation :=
  t.move.operation? t.source.console.mode

/-- What was done with the cache, the newest first. -/
def operations (history : List Transition) : List Operation :=
  history.filterMap Transition.operation?

theorem operations_cons (t : Transition) :
    operations (t :: history) = t.operation?.toList ++ operations history := by
  rw [operations, List.filterMap_cons]
  cases t.operation? <;> rfl

/-- **What is known of the status follows from what was done with the cache**, with a
key and without. -/
theorem Run.cache_eq_after (run : Run o history w) :
    w.console.cache = StatusCache.after (operations history) := by
  refine run.induct
    (P := fun history w => w.console.cache = StatusCache.after (operations history)) rfl ?_
  intro history w w' move ih step
  rw [step.operates.1, ih, operations_cons, Transition.operation?]
  cases move.operation? w.console.mode <;> rfl

/-- Runs that do the same with the cache ask the same questions. -/
theorem Run.inquiries_eq (run : Run o history w) {o' : Origin} {history' : List Transition}
    {w' : World} (run' : Run o' history' w') (same : operations history' = operations history) :
    w'.console.cache = w.console.cache ∧ inquiries history' = inquiries history := by
  have cache : w'.console.cache = w.console.cache := by
    rw [run'.cache_eq_after, same, run.cache_eq_after]
  exact ⟨cache, by rw [run'.inquiries_numbered.1, cache, run.inquiries_numbered.1]⟩

end Runs

/-- The world with a key, or without. -/
def World.withKey (w : World) (hasKey : Bool) : World :=
  { w with console := { w.console with hasKey := hasKey } }

/-- What happens in a world can happen in it with a key, too. -/
theorem Step.withKey {w w' : World} {move : Move} (step : Step w move w') (hasKey : Bool) :
    ∃ v, Step (w.withKey hasKey) move v := by
  cases step with
  | start => exact ⟨_, .start⟩
  | key k modifiers => exact ⟨_, .key k modifiers⟩
  | wait elapsed => exact ⟨_, .wait elapsed⟩
  | read work => exact ⟨_, .read work⟩
  | store work => exact ⟨_, .store work⟩
  | elsewhere settings => exact ⟨_, .elsewhere settings⟩
  | finish work allowed answered => exact ⟨_, .finish work allowed answered⟩
  | withdraw work withdrawn => exact ⟨_, .withdraw work withdrawn⟩
  | deliver mailbox => exact ⟨_, .deliver mailbox⟩

/-- A key changes nothing about the status. -/
theorem Step.status_withKey {w w' : World} {move : Move} (step : Step w move w') (hasKey : Bool) :
    ∃ v, Step (w.withKey hasKey) move v ∧ v.console.cache = w'.console.cache ∧
      inquiries [⟨w.withKey hasKey, move, v⟩] = inquiries [⟨w, move, w'⟩] := by
  obtain ⟨v, keyed⟩ := step.withKey hasKey
  refine ⟨v, keyed, keyed.operates.1.trans step.operates.1.symm, ?_⟩
  exact congrArg (· ++ []) (keyed.operates.2.trans step.operates.2.symm)

/-! ## The same with a key -/

/-- A world in which nobody edits, and which has the status and the requests for it from
another. -/
structure World.Follows (v w : World) : Prop where
  viewing : v.console.mode = .viewing
  cache : v.console.cache = w.console.cache
  work : ∃ others, v.work = w.work + others
  mailbox : v.mailbox = w.mailbox

/-- Without a key only a request for the status is a job. -/
theorem Step.jobs_eq_nil {w w' : World} {move : Move} (step : Step w move w') (keyless : w.Keyless)
    (idle : move.operation? w.console.mode = none) : move.jobs w = [] := by
  have unasked := step.operates.2
  rw [idle] at unasked
  rw [List.eq_nil_iff_forall_not_mem]
  intro job hjob
  obtain ⟨generation, rfl⟩ := (step.effect.keyless keyless.hasKey keyless.rest).2 job hjob
  cases List.filterMap_eq_nil_iff.1 unasked _ (List.mem_reverse.2 hjob)

namespace World.Follows

variable {v w w' : World} {move : Move}

/-- Both ask for the status at the same key. -/
theorem ask (h : v.Follows w) {k : Key} {modifiers : Modifiers}
    (asks : w.console.mode.AsksStatus k modifiers) :
    (v.handle (.key k modifiers)).Follows (w.handle (.key k modifiers)) := by
  obtain ⟨others, work⟩ := h.work
  rw [World.handle, World.handle, Console.refreshStatus_of_asks v.now ⟨h.viewing, asks.2⟩,
    Console.refreshStatus_of_asks w.now asks]
  refine ⟨h.viewing, congrArg StatusCache.refresh h.cache, ⟨others, ?_⟩, h.mailbox⟩
  show v.work + ([.new (.fetchStatus v.console.cache.refresh.generation)] : List Task) =
    w.work + ([.new (.fetchStatus w.console.cache.refresh.generation)] : List Task) + others
  rw [work, h.cache, add_right_comm]

/-- A step that does nothing with the cache need not be followed. -/
theorem idle (h : v.Follows w) (cache : w'.console.cache = w.console.cache)
    (work : w'.work = w.work) (mailbox : w'.mailbox = w.mailbox) : v.Follows w' :=
  ⟨h.viewing, h.cache.trans cache.symm, work ▸ h.work, h.mailbox.trans mailbox.symm⟩

theorem idle_key (h : v.Follows w) (keyless : w.Keyless) {k : Key} {modifiers : Modifiers}
    (unchanged : (Move.key k modifiers).operation? w.console.mode = none) :
    v.Follows (w.handle (.key k modifiers)) := by
  have step := Step.key (w := w) k modifiers
  have jobs : (w.console.update w.now (.key k modifiers)).value = [] :=
    step.jobs_eq_nil keyless unchanged
  have cache := step.operates.1
  rw [unchanged] at cache
  refine h.idle cache ?_ rfl
  show w.work + _ = w.work
  rw [jobs]
  exact add_zero _

theorem answer (h : v.Follows w) (generation : Nat) (result : Except ApiError ServerStatus)
    (rest : Multiset Answer) :
    ({ v with mailbox := rest }.handle (.statusLoaded generation result)).Follows
      ({ w with mailbox := rest }.handle (.statusLoaded generation result)) := by
  obtain ⟨others, work⟩ := h.work
  refine ⟨h.viewing, congrArg (fun c => (c.commit generation result).state) h.cache,
    ⟨others, ?_⟩, rfl⟩
  show v.work + 0 = w.work + 0 + others
  rw [add_zero, add_zero, work]

/-- A step either does nothing with the cache, or can be taken where only the status is
looked after. -/
theorem step (h : v.Follows w) (keyless : w.Keyless) (step : Step w move w')
    (other : move ≠ .start) :
    (move.operation? w.console.mode = none ∧ v.Follows w') ∨
      ∃ v', Step v move v' ∧ move.operation? v.console.mode = move.operation? w.console.mode ∧
        v'.Follows w' := by
  have status {request : Request} (flying : request ∈ w.inFlight) := keyless.flying request flying
  cases step with
  | start => exact absurd rfl other
  | key k modifiers =>
      by_cases asks : w.console.mode.AsksStatus k modifiers
      · refine .inr ⟨_, .key k modifiers, ?_, h.ask asks⟩
        rw [Move.operation?, Move.operation?, if_pos asks, if_pos ⟨h.viewing, asks.2⟩]
      · have unchanged : (Move.key k modifiers).operation? w.console.mode = none := if_neg asks
        exact .inl ⟨unchanged, h.idle_key keyless unchanged⟩
  | wait | elsewhere => exact .inl ⟨rfl, h.idle rfl rfl rfl⟩
  | read found | store found =>
      obtain ⟨_, request⟩ := status (request_mem_of_work (found ▸ Multiset.mem_cons_self _ _))
      cases request
  | finish found allowed answered =>
      obtain ⟨others, work⟩ := h.work
      rw [found, Multiset.cons_add] at work
      exact .inr ⟨_, .finish work allowed answered, rfl, h.viewing, h.cache, ⟨others, rfl⟩,
        congrArg (_ ::ₘ ·) h.mailbox⟩
  | withdraw found withdrawn =>
      obtain ⟨others, work⟩ := h.work
      rw [found, Multiset.cons_add] at work
      rw [← h.cache] at withdrawn
      exact .inr ⟨_, .withdraw work withdrawn, rfl, h.viewing, h.cache, ⟨others, rfl⟩, h.mailbox⟩
  | @deliver answer rest arrived =>
      obtain ⟨_, request⟩ := status (request_mem_of_mailbox (arrived ▸ Multiset.mem_cons_self _ _))
      cases answer with
      | status generation result =>
          exact .inr ⟨_, .deliver (h.mailbox.trans arrived), rfl, h.answer generation result rest⟩
      | settings _ _ | saved _ => cases request

end World.Follows

section Runs

variable {o : Origin} {history : List Transition} {w : World}

/-- With a key there is one job more at the start, the load. -/
theorem Origin.follows (o : Origin) (keyless : o.hasKey = false) :
    (Origin.world { o with hasKey := true }).start.Follows o.world.start := by
  obtain ⟨budget, hasKey, server, now⟩ := o
  subst keyless
  exact ⟨rfl, rfl, ⟨{.new (.fetchSettings 1)}, rfl⟩, rfl⟩

/-- **What was done with the cache without a key can be done with one.** -/
theorem Run.exists_keyed (run : Run o history w) (keyless : o.hasKey = false) :
    ∃ history' v, Run { o with hasKey := true } history' v ∧
      operations history' = operations history ∧ v.Follows w := by
  induction run with
  | start => exact ⟨_, _, .start, rfl, o.follows keyless⟩
  | @step history w w' move before taken other ih =>
      obtain ⟨history', v, keyed, same, follows⟩ := ih
      obtain ⟨unchanged, idle⟩ | ⟨v', step, operation, next⟩ :=
        follows.step (before.stays_keyless keyless) taken other
      · refine ⟨history', v, keyed, ?_, idle⟩
        rw [same, operations_cons, Transition.operation?, unchanged]
        rfl
      · refine ⟨_, v', keyed.step step other, ?_, next⟩
        rw [operations_cons, operations_cons, same, Transition.operation?, Transition.operation?,
          operation]

/-- **A run without a key** leads to no jobs but requests for the status.  The form is
never loading or saving, and no load is ever counted.  Only a key that is pressed while
editing changes the working copy, so a URL that is not empty was edited.

With the status all is as with a key.  Each step could be taken with a key, to the same
effect.  All that was done with the cache could be done with a key from the start, and
any run that does the same with its cache has the same cache and made the same requests. -/
theorem Run.without_key (run : Run o history w) (keyless : o.hasKey = false) :
    (∀ t ∈ history, ∀ job ∈ t.jobs, ∃ generation, job = .fetchStatus generation) ∧
      (w.console.form.loading = false ∧ w.console.form.saving = false ∧
        w.console.form.latestLoad = 0) ∧
      (∀ t ∈ history, t.target.console.form.urls ≠ t.source.console.form.urls →
        ∃ k modifiers f, t.move = .key k modifiers ∧ t.source.console.mode = .editing f ∧
          k.Writes modifiers) ∧
      (∀ f, w.text f ≠ "" → ∃ t ∈ history, t.Edits f) ∧
      (∀ t ∈ history, ∃ v, Step (t.source.withKey true) t.move v ∧
        v.console.cache = t.target.console.cache ∧
        inquiries [⟨t.source.withKey true, t.move, v⟩] = inquiries [t]) ∧
      (∃ history' v, Run { o with hasKey := true } history' v ∧
        operations history' = operations history) ∧
      ∀ {o' history' v}, Run o' history' v → operations history' = operations history →
        v.console.cache = w.console.cache ∧ inquiries history' = inquiries history := by
  have rest := (run.stays_keyless keyless).rest
  refine ⟨fun t ht => ?_, ⟨rest.loading, rest.saving, rest.latestLoad⟩, fun t ht changed => ?_,
    fun f typed => ?_, fun t ht => (run.step_of_mem ht).status_withKey true, ?_, run.inquiries_eq⟩
  · have before := run.keyless_before keyless t ht
    exact ((run.step_of_mem ht).effect.keyless before.hasKey before.rest).2
  · obtain kept | ⟨k, modifiers, f, _, pressed, editing, writes, _⟩ | ⟨_, arrived, _⟩ :=
      (run.step_of_mem ht).effect.urls_cases
    · exact absurd kept changed
    · exact ⟨k, modifiers, f, pressed, editing, writes⟩
    · obtain ⟨_, _, other⟩ := run.status_of_deliver keyless ht arrived
      cases other
  · by_contra unedited
    push Not at unedited
    exact typed (run.text_unloaded (run.unloaded_of_keyless keyless) unedited)
  · obtain ⟨history', v, keyed, same, _⟩ := run.exists_keyed keyless
    exact ⟨history', v, keyed, same⟩

end Runs

/-- Without a key, somebody types a letter and asks for a save, for a load and for the
status.  The letter stays, and nothing comes of it all but a second request for the
status. -/
theorem without_key_typed : ∃ history w, Run { Origin.sample with hasKey := false } history w ∧
    w.text .contentGenerated = "x" ∧ (∃ t ∈ history, t.AsksToSave) ∧ (∃ t ∈ history, t.Reloads) ∧
    (∃ t ∈ history, t.Edits .contentGenerated) ∧ inquiries history = [2, 1] ∧
    w.console.form.loading = false ∧ w.console.form.saving = false ∧
    w.console.form.latestLoad = 0 := by
  have run := Run.start (o := { Origin.sample with hasKey := false })
  have run := run.step (.key .enter .none) nofun
  have run := run.step (.key (.char 'x') .none) nofun
  have run := run.step (.key (.char 's') .onlyControl) nofun
  have run := run.step (.key (.char 'R') .none) nofun
  have run := run.step (.key (.char 'r') .none) nofun
  obtain ⟨_, ⟨loading, saving, latest⟩, _, edited, _⟩ := run.without_key rfl
  have reload {newest reload : Transition} {older : List Transition} :
      reload ∈ newest :: reload :: older := List.mem_cons_of_mem _ List.mem_cons_self
  refine ⟨_, _, run, ?typed, ⟨_, List.mem_cons_of_mem _ reload, _, _, rfl, rfl, rfl⟩,
    ⟨_, reload, rfl, _, rfl⟩, edited _ ?_, ?asked, loading, saving, latest⟩
  case typed => decide +kernel
  case asked => decide +kernel
  decide +kernel

end Dashboard
