import Dashboard.Proofs.Effect
import Mathlib.Algebra.Order.Group.Multiset

/-!
# Requests in flight

A request is in flight from the step that hands out its job to the step in
which its answer arrives, be it as a job or as an answer.  `Step.balance` says
how a step changes the requests in flight, and `Tracked` says that the flags
of the form follow them.

## Main results

* `Step.balance`, `Run.issued_of_inFlight` — requests in flight are those handed
  out and not closed.
* `Run.tracked` — the form is saving just while a save is in flight, it is
  loading just while the latest load is in flight, and no load in flight is
  newer than the latest.
* `Run.head?_loads` — the generation of the latest load is that of the load
  issued last.
* `Run.loading_eq_false_iff` — the form is loading until the latest load is
  answered.
* `Run.flags_iff_inFlight` — the flags of the form tell what is in flight, and
  who ends what they tell.
-/

namespace Dashboard

open Webhook (Envelope Form LoadStart SaveStart)

/-- A job without its content, or an answer without its result. -/
inductive Request where
  | status (generation : Nat)
  | load (generation : Nat)
  | save
  deriving DecidableEq

def Job.request : Job → Request
  | .fetchStatus generation => .status generation
  | .fetchSettings generation => .load generation
  | .saveSettings _ => .save

def Answer.request : Answer → Request
  | .status generation _ => .status generation
  | .settings generation _ => .load generation
  | .saved _ => .save

def Move.closes : Move → Multiset Request
  | .deliver answer => {answer.request}
  | .withdraw generation => {.status generation}
  | .start | .key _ _ | .wait | .serve | .elsewhere | .finish _ => 0

def World.inFlight (w : World) : Multiset Request :=
  w.work.map (fun task => task.job.request) + w.mailbox.map Answer.request

theorem World.request_mem_of_work {w : World} {task : Task} (hmem : task ∈ w.work) :
    task.job.request ∈ w.inFlight :=
  Multiset.mem_add.2 (.inl (Multiset.mem_map_of_mem _ hmem))

theorem World.request_mem_of_mailbox {w : World} {answer : Answer} (hmem : answer ∈ w.mailbox) :
    answer.request ∈ w.inFlight :=
  Multiset.mem_add.2 (.inr (Multiset.mem_map_of_mem _ hmem))

/-! ## The balance of a step -/

/-- What a backend answers to a job: the request of the answer is that of the
job, and the result is the one that the backend has for it. -/
theorem Job.answered_cases {job : Job} {backend : Backend} {cache : StatusCache} {answer : Answer}
    (answered : job.perform backend cache = .answered answer.event) :
    (∃ generation result, job = .fetchStatus generation ∧ answer = .status generation result) ∨
      (∃ generation, job = .fetchSettings generation ∧
        answer = .settings generation backend.settings) ∨
      ∃ urls, job = .saveSettings urls ∧ answer = .saved (backend.save urls) := by
  cases job with
  | fetchStatus generation =>
      left
      simp only [perform] at answered
      split at answered
      · cases answered
      · split at answered
        · cases answer <;> simp_all [Answer.event]
        · cases answered
  | fetchSettings generation =>
      right; left
      cases answer <;> simp_all [perform, Answer.event]
  | saveSettings urls =>
      right; right
      cases answer <;> simp_all [perform, Answer.event]

theorem Job.answered_request {job : Job} {backend : Backend} {cache : StatusCache}
    {answer : Answer} (answered : job.perform backend cache = .answered answer.event) :
    answer.request = job.request := by
  obtain ⟨_, _, rfl, rfl⟩ | ⟨_, rfl, rfl⟩ | ⟨_, rfl, rfl⟩ := Job.answered_cases answered <;> rfl

/-- Jobs that are handed out are in flight from then on. -/
theorem World.inFlight_adopt (w : World) (reaction : Console.Reaction) :
    (w.adopt reaction).inFlight = w.inFlight + (reaction.value.map Job.request : List Request) := by
  have requests : ((reaction.value.map Task.new : List Task) : Multiset Task).map
      (fun task => task.job.request) = (reaction.value.map Job.request : List Request) := by
    simp [Task.new, Function.comp_def]
  show (w.work + (reaction.value.map Task.new : List Task)).map _ + w.mailbox.map _ = _
  rw [Multiset.map_add, requests, add_right_comm]
  rfl

/-- **The balance of a step**: what is in flight after it, and what it closes,
make up what was in flight before it and what it hands out. -/
theorem Step.balance {w w' : World} {move : Move} (step : Step w move w') :
    w'.inFlight + move.closes = w.inFlight + ((move.jobs w).map Job.request : List Request) := by
  cases step with
  | start => exact (add_zero _).trans (World.inFlight_adopt w _)
  | key k modifiers => exact (add_zero _).trans (World.inFlight_adopt w _)
  | wait elapsed => rfl
  | elsewhere settings => rfl
  | read work => simp [World.inFlight, Move.closes, Move.jobs, work]
  | store work => simp [World.inFlight, Move.closes, Move.jobs, work, Job.request]
  | finish work _ answered =>
      simp [World.inFlight, Move.closes, Move.jobs, work, Job.answered_request answered]
  | withdraw work _ =>
      simp only [World.inFlight, Move.closes, Move.jobs, work, Multiset.map_cons, Job.request,
        List.map_nil, Multiset.coe_nil, add_zero, Multiset.cons_add]
      rw [← Multiset.singleton_add, add_comm]
  | deliver mailbox =>
      rw [World.handle, World.inFlight_adopt, add_right_comm]
      congr 1
      simp only [World.inFlight, Move.closes, mailbox, Multiset.map_cons, Multiset.add_cons]
      rw [← Multiset.singleton_add, add_comm]

/-! ## Flags and requests -/

/-- What the console takes no notice of closes no request of the form. -/
theorem Move.Silent.count_closes {move : Move} (silent : move.Silent) (r : Request)
    (form : ∀ generation, r ≠ .status generation) : move.closes.count r = 0 := by
  cases move with
  | withdraw generation => simp [closes, form generation]
  | wait | serve | elsewhere | finish => rfl
  | start | key | deliver => exact silent.elim

/-- Requests for the status are not requests of the form. -/
theorem count_requests_calm {jobs : List Job}
    (calm : ∀ job ∈ jobs, ∃ generation, job = .fetchStatus generation) (r : Request)
    (form : ∀ generation, r ≠ .status generation) : (jobs.map Job.request).count r = 0 := by
  rw [List.count_eq_zero, List.mem_map]
  rintro ⟨job, hjob, rfl⟩
  obtain ⟨generation, rfl⟩ := calm job hjob
  exact form generation rfl

theorem count_save_loadJobs (start : LoadStart) :
    (start.jobs.map Job.request).count .save = 0 := by
  cases start <;> simp [LoadStart.jobs, Job.request]

theorem count_load_saveJobs (start : SaveStart) (generation : Nat) :
    (start.jobs.map Job.request).count (.load generation) = 0 := by
  cases start <;> simp [SaveStart.jobs, Job.request]

/-- The flags of the form follow the requests in flight. -/
structure Tracked (d : Desk) (flight : Multiset Request) : Prop where
  keyed : d.hasKey = false → d.form.loading = false
  saving : flight.count .save = d.form.saving.toNat
  loading : flight.count (.load d.form.latestLoad) = d.form.loading.toNat
  issued : ∀ generation, .load generation ∈ flight → generation ≤ d.form.latestLoad

namespace Tracked

variable {d d' : Desk} {flight flight' : Multiset Request}

theorem saving_iff (h : Tracked d flight) : .save ∈ flight ↔ d.form.saving = true := by
  rw [← Multiset.count_pos, h.saving]
  cases d.form.saving <;> simp

theorem loading_iff (h : Tracked d flight) :
    .load d.form.latestLoad ∈ flight ↔ d.form.loading = true := by
  rw [← Multiset.count_pos, h.loading]
  cases d.form.loading <;> simp

theorem hasKey (h : Tracked d flight) (loading : d.form.loading = true) : d.hasKey = true := by
  rw [← Bool.not_eq_false]
  intro keyless
  cases (h.keyed keyless).symm.trans loading

theorem keepLoads (h : Tracked d flight) (hasKey : d'.hasKey = d.hasKey)
    (loading : d'.form.loading = d.form.loading) (latest : d'.form.latestLoad = d.form.latestLoad)
    (loads : ∀ generation, flight'.count (.load generation) = flight.count (.load generation))
    (saving : flight'.count .save = d'.form.saving.toNat) : Tracked d' flight' where
  keyed := by rw [hasKey, loading]; exact h.keyed
  saving := saving
  loading := by rw [latest, loads, loading]; exact h.loading
  issued generation := by
    rw [latest, ← Multiset.count_pos, loads, Multiset.count_pos]
    exact h.issued generation

/-- A wish to load adds a load that is newer than all others, or nothing. -/
theorem beginLoad (h : Tracked d flight) (saves : flight'.count .save = flight.count .save)
    (loads : ∀ generation, flight'.count (.load generation) = flight.count (.load generation) +
      ((d.form.beginLoad d.hasKey).1.jobs.map Job.request).count (.load generation)) :
    Tracked { d with form := (d.form.beginLoad d.hasKey).2 } flight' := by
  cases hKey : d.hasKey with
  | false =>
      rw [hKey] at loads
      exact h.keepLoads hKey.symm (h.keyed hKey).symm rfl loads (saves.trans h.saving)
  | true =>
      rw [hKey] at loads
      have old : flight.count (.load (d.form.latestLoad + 1)) = 0 := by
        rw [Multiset.count_eq_zero]
        intro hmem
        have := h.issued _ hmem
        omega
      have new : ∀ generation, flight'.count (.load generation) = flight.count (.load generation) +
          [Request.load (d.form.latestLoad + 1)].count (.load generation) := loads
      refine
        { keyed := fun keyless => absurd keyless (by simp)
          saving := saves.trans h.saving
          loading := ?_
          issued := ?_ }
      · show flight'.count (.load (d.form.latestLoad + 1)) = 1
        rw [new, old, List.count_singleton_self]
      · intro generation hmem
        show generation ≤ d.form.latestLoad + 1
        rw [← Multiset.count_pos, new] at hmem
        by_cases hnew : generation = d.form.latestLoad + 1
        · omega
        · have apart : [Request.load (d.form.latestLoad + 1)].count (.load generation) = 0 := by
            simp [Ne.symm hnew]
          rw [apart, Nat.add_zero, Multiset.count_pos] at hmem
          exact Nat.le_succ_of_le (h.issued generation hmem)

/-- The answer to a load ends the loading if the load is the latest. -/
theorem finishLoad (h : Tracked d flight) {generation : Nat} {result : Except ApiError Envelope}
    (saves : flight'.count .save = flight.count .save)
    (loads : ∀ g, flight'.count (.load g) + ({.load generation} : Multiset Request).count (.load g) =
      flight.count (.load g)) :
    Tracked { d with form := (d.form.finishLoad generation result).state } flight' := by
  have issued : ∀ g, .load g ∈ flight' → g ≤ d.form.latestLoad := by
    intro g hmem
    apply h.issued g
    rw [← Multiset.count_pos] at hmem ⊢
    have := loads g
    omega
  by_cases hlatest : generation = d.form.latestLoad
  · subst hlatest
    have none : flight'.count (.load d.form.latestLoad) = 0 := by
      have one := loads d.form.latestLoad
      have flag := Bool.toNat_le d.form.loading
      rw [Multiset.count_singleton_self, h.loading] at one
      omega
    cases result with
    | ok e =>
        rw [Form.finishLoad_ok]
        exact ⟨fun _ => rfl, saves.trans h.saving, none, issued⟩
    | error e =>
        rw [Form.finishLoad_error]
        exact ⟨fun _ => rfl, saves.trans h.saving, none, issued⟩
  · rw [Form.finishLoad_stale hlatest]
    have same : flight'.count (.load d.form.latestLoad) = flight.count (.load d.form.latestLoad) := by
      have apart : ({.load generation} : Multiset Request).count (.load d.form.latestLoad) = 0 := by
        simp [Ne.symm hlatest]
      have := loads d.form.latestLoad
      omega
    exact ⟨h.keyed, saves.trans h.saving, same.trans h.loading, issued⟩

/-- A wish to save adds the only save, or nothing. -/
theorem beginSave (h : Tracked d flight)
    (saves : flight'.count .save = flight.count .save +
      ((d.form.beginSave d.hasKey).1.jobs.map Job.request).count .save)
    (loads : ∀ generation, flight'.count (.load generation) = flight.count (.load generation)) :
    Tracked { d with mode := .viewing, form := (d.form.beginSave d.hasKey).2 } flight' := by
  obtain ⟨issue, _, free, _⟩ | ⟨same, none⟩ := d.form.beginSave_cases d.hasKey
  · have one : flight'.count .save = 1 := by
      rw [saves, h.saving, free, issue]
      rfl
    rw [issue]
    exact h.keepLoads rfl rfl rfl loads one
  · rw [none] at saves
    rw [same]
    exact h.keepLoads rfl rfl rfl loads (saves.trans h.saving)

theorem endSave (h : Tracked d flight) (saves : flight'.count .save + 1 = flight.count .save)
    (loads : ∀ generation, flight'.count (.load generation) = flight.count (.load generation)) :
    Tracked { d with form := { d.form with saving := false } } flight' := by
  have none : flight'.count .save = 0 := by
    have flag := Bool.toNat_le d.form.saving
    rw [← h.saving] at flag
    omega
  exact h.keepLoads rfl rfl rfl loads none

/-- A step keeps the flags true to the requests. -/
theorem step (h : Tracked d flight) {move : Move} {jobs : List Job}
    (effect : Effect d move d' jobs)
    (balance : flight' + move.closes = flight + (jobs.map Job.request : List Request)) :
    Tracked d' flight' := by
  have count (r : Request) :
      flight'.count r + move.closes.count r = flight.count r + (jobs.map Job.request).count r := by
    simpa using congrArg (Multiset.count r) balance
  cases effect with
  | silent silent =>
      have closed := silent.count_closes
      exact h.keepLoads rfl rfl rfl (fun g => by simpa [closed] using count (.load g))
        (by simpa [closed, ← h.saving] using count .save)
  | steer calm =>
      have none := count_requests_calm calm
      exact h.keepLoads rfl rfl rfl (fun g => by simpa [none, Move.closes] using count (.load g))
        (by simpa [none, Move.closes, ← h.saving] using count .save)
  | select _ | enter _ _ | leave | edit _ _ =>
      exact h.keepLoads rfl rfl rfl (fun g => by simpa [Move.closes] using count (.load g))
        (by simpa [Move.closes, ← h.saving] using count .save)
  | status =>
      exact h.keepLoads rfl rfl rfl
        (fun g => by simpa [Move.closes, Answer.request] using count (.load g))
        (by simpa [Move.closes, Answer.request, ← h.saving] using count .save)
  | start | load _ =>
      have none := count_save_loadJobs (d.form.beginLoad d.hasKey).1
      refine h.beginLoad ?_ fun g => ?_
      · simpa [Move.closes, Job.request, none] using count .save
      · simpa [Move.closes, Job.request] using count (.load g)
  | save _ =>
      have none := count_load_saveJobs (d.form.beginSave d.hasKey).1
      refine h.beginSave ?_ fun g => ?_
      · simpa [Move.closes] using count .save
      · simpa [Move.closes, none] using count (.load g)
  | loaded =>
      refine h.finishLoad ?_ fun g => ?_
      · simpa [Move.closes, Answer.request] using count .save
      · simpa [Move.closes, Answer.request] using count (.load g)
  | unsaved =>
      refine h.endSave ?_ fun g => ?_
      · simpa [Move.closes, Answer.request] using count .save
      · simpa [Move.closes, Answer.request] using count (.load g)
  | saved =>
      -- The answer leaves first, and what is handed out comes on top of the rest.
      have none := count_save_loadJobs ({ d.form with saving := false }.beginLoad d.hasKey).1
      have saves : flight'.count .save + 1 = flight.count .save := by
        simpa [Move.closes, Answer.request, Job.request, none] using count .save
      have present : .save ∈ flight := by
        rw [← Multiset.count_pos]
        omega
      have ended : Tracked { d with form := { d.form with saving := false } } (flight.erase .save) := by
        refine h.endSave ?_ fun g => ?_
        · rw [Multiset.count_erase_self]
          omega
        · rw [Multiset.count_erase_of_ne (by simp)]
      refine ended.beginLoad ?_ fun g => ?_
      · rw [Multiset.count_erase_self]
        omega
      · rw [Multiset.count_erase_of_ne (by simp)]
        simpa [Move.closes, Answer.request, Job.request] using count (.load g)

end Tracked

theorem Origin.tracked (o : Origin) : Tracked o.world.desk o.world.inFlight :=
  ⟨fun _ => rfl, rfl, rfl, fun _ hmem => absurd hmem (Multiset.notMem_zero _)⟩

/-- **Flags and requests agree** in every world that is reached. -/
theorem Run.tracked {o : Origin} {history : List Transition} {w : World}
    (run : Run o history w) : Tracked w.desk w.inFlight :=
  run.invariant (P := fun w => Tracked w.desk w.inFlight) o.tracked
    fun h step => h.step step.effect step.balance

/-- A request in flight belongs to a job that was handed out. -/
theorem Run.issued_of_inFlight {o : Origin} {history : List Transition} {w : World}
    (run : Run o history w) {r : Request} (flying : r ∈ w.inFlight) :
    ∃ t ∈ history, ∃ job ∈ t.jobs, job.request = r := by
  refine run.induct (P := fun history w => r ∈ w.inFlight →
    ∃ t ∈ history, ∃ job ∈ t.jobs, job.request = r) ?_ ?_ flying
  · intro none
    exact absurd none (Multiset.notMem_zero _)
  intro history w w' move ih step flying
  have balanced : r ∈ w.inFlight + ((move.jobs w).map Job.request : List Request) := by
    rw [← step.balance]
    exact Multiset.mem_add.2 (.inl flying)
  rcases Multiset.mem_add.1 balanced with old | new
  · obtain ⟨t, ht, issued⟩ := ih old
    exact ⟨t, List.mem_cons_of_mem _ ht, issued⟩
  · exact ⟨_, List.mem_cons_self, List.mem_map.1 (Multiset.mem_coe.1 new)⟩

/-! ## The latest load -/

def Job.load? : Job → Option Nat
  | .fetchSettings generation => some generation
  | .fetchStatus _ | .saveSettings _ => none

/-- The generations of the loads that were issued, the newest first. -/
def loads (history : List Transition) : List Nat :=
  history.flatMap fun t => t.jobs.reverse.filterMap Job.load?

/-- A step issues no load, or the one after the latest. -/
theorem Effect.latestLoad_cases {d d' : Desk} {move : Move} {jobs : List Job}
    (effect : Effect d move d' jobs) :
    (d'.form.latestLoad = d.form.latestLoad ∧ jobs.reverse.filterMap Job.load? = []) ∨
      (d'.form.latestLoad = d.form.latestLoad + 1 ∧
        jobs.reverse.filterMap Job.load? = [d'.form.latestLoad]) := by
  cases effect with
  | silent _ | select _ | enter _ _ | leave | edit _ _ | status | unsaved => exact .inl ⟨rfl, rfl⟩
  | steer calm =>
      refine .inl ⟨rfl, ?_⟩
      rw [List.filterMap_eq_nil_iff]
      intro job hjob
      obtain ⟨generation, rfl⟩ := calm job (List.mem_reverse.1 hjob)
      rfl
  | loaded => exact .inl ⟨Form.finishLoad_latestLoad _ _ _, rfl⟩
  | save _ =>
      obtain ⟨issue, _⟩ | ⟨same, none⟩ := d.form.beginSave_cases d.hasKey
      · rw [issue]
        exact .inl ⟨rfl, rfl⟩
      · rw [same, none]
        exact .inl ⟨rfl, rfl⟩
  | start | load _ | saved =>
      cases d.hasKey
      · exact .inl ⟨rfl, rfl⟩
      · exact .inr ⟨rfl, rfl⟩

theorem Step.latestLoad_le {w w' : World} {move : Move} (step : Step w move w') :
    w.desk.form.latestLoad ≤ w'.desk.form.latestLoad := by
  obtain ⟨latest, _⟩ | ⟨latest, _⟩ := step.effect.latestLoad_cases
  · exact latest.ge
  · exact latest ▸ Nat.le_succ _

/-- The number of the latest load never goes back. -/
theorem Run.latestLoad_le {o : Origin} {history : List Transition} {w : World}
    (run : Run o history w) :
    ∀ t ∈ history, t.source.desk.form.latestLoad ≤ w.desk.form.latestLoad := by
  refine run.induct (P := fun history w => ∀ t ∈ history,
    t.source.desk.form.latestLoad ≤ w.desk.form.latestLoad) ?_ ?_
  · intro t ht
    exact absurd ht List.not_mem_nil
  · intro history w w' move ih step t ht
    rcases List.mem_cons.1 ht with rfl | ht
    · exact step.latestLoad_le
    · exact (ih t ht).trans step.latestLoad_le

/-- A load whose answer arrived is not newer than the latest was then. -/
theorem Run.le_latestLoad_of_arrived {o : Origin} {history : List Transition} {w : World}
    (run : Run o history w) {t : Transition} (ht : t ∈ history) {generation : Nat}
    {result : Except ApiError Envelope}
    (arrived : t.move = .deliver (.settings generation result)) :
    generation ≤ t.source.desk.form.latestLoad := by
  have tracked := run.before (P := fun w => Tracked w.desk w.inFlight) o.tracked
    (fun h step => h.step step.effect step.balance) t ht
  exact tracked.issued _ (World.request_mem_of_mailbox (run.arrived ht arrived))

/-- If the answer to the latest load arrived, no load was issued since. -/
theorem Run.latestLoad_of_arrived {o : Origin} {history : List Transition} {w : World}
    (run : Run o history w) {t : Transition} (ht : t ∈ history)
    {result : Except ApiError Envelope}
    (arrived : t.move = .deliver (.settings w.desk.form.latestLoad result)) :
    t.source.desk.form.latestLoad = w.desk.form.latestLoad :=
  Nat.le_antisymm (run.latestLoad_le t ht) (run.le_latestLoad_of_arrived ht arrived)

/-- **The latest load is the one issued last**; before the first its number is
zero. -/
theorem Run.head?_loads {o : Origin} {history : List Transition} {w : World}
    (run : Run o history w) : (loads history).head?.getD 0 = w.console.form.latestLoad := by
  refine run.induct (P := fun history w =>
    (loads history).head?.getD 0 = w.desk.form.latestLoad) rfl ?_
  intro history w w' move ih step
  obtain ⟨latest, none⟩ | ⟨_, one⟩ := step.effect.latestLoad_cases
  · rw [latest, ← ih, loads, List.flatMap_cons, Transition.jobs, none]
    rfl
  · rw [loads, List.flatMap_cons, Transition.jobs, one]
    rfl

theorem Run.eq_latestLoad {o : Origin} {history : List Transition} {w : World}
    (run : Run o history w) {generation : Nat}
    (latest : (loads history).head? = some generation) : generation = w.desk.form.latestLoad := by
  have head := run.head?_loads
  rw [latest] at head
  exact head

/-- While the latest load is in flight there is a load that was issued last. -/
theorem Run.head?_loads_of_inFlight {o : Origin} {history : List Transition} {w : World}
    (run : Run o history w) (flying : .load w.desk.form.latestLoad ∈ w.inFlight) :
    (loads history).head? = some w.desk.form.latestLoad := by
  obtain ⟨t, ht, job, hjob, request⟩ := run.issued_of_inFlight flying
  have issued : w.desk.form.latestLoad ∈ loads history := by
    refine mem_handedOut.2 ⟨t, ht, job, hjob, ?_⟩
    cases job <;> cases request
    rfl
  cases latest : (loads history).head? with
  | none =>
      rw [List.head?_eq_none_iff.1 latest] at issued
      cases issued
  | some newest => rw [run.eq_latestLoad latest]

theorem Effect.hasKey {d d' : Desk} {move : Move} {jobs : List Job}
    (effect : Effect d move d' jobs) : d'.hasKey = d.hasKey := by
  cases effect <;> rfl

theorem Run.hasKey {o : Origin} {history : List Transition} {w : World}
    (run : Run o history w) : w.desk.hasKey = o.hasKey :=
  run.invariant (P := fun w => w.desk.hasKey = o.hasKey) rfl
    fun h step => step.effect.hasKey.trans h

/-! ## Answers to loads -/

/-- The answer to this load has arrived. -/
def Answered (history : List Transition) (generation : Nat) : Prop :=
  ∃ t ∈ history, ∃ result, t.move = .deliver (.settings generation result)

theorem answered_cons {history : List Transition} {generation : Nat} {t : Transition} :
    Answered (t :: history) generation ↔
      (∃ result, t.move = .deliver (.settings generation result)) ∨ Answered history generation := by
  simp [Answered]

/-- What a step can do to the loading if there is a key: it issues a load, it
brings the answer to the latest load, or it does neither. -/
theorem Effect.loading_cases {d d' : Desk} {move : Move} {jobs : List Job}
    (effect : Effect d move d' jobs) (key : d.hasKey = true) :
    (d'.form.latestLoad = d.form.latestLoad + 1 ∧ d'.form.loading = true ∧
        ∀ generation result, move ≠ .deliver (.settings generation result)) ∨
      (d'.form.latestLoad = d.form.latestLoad ∧ d'.form.loading = false ∧
        ∃ result, move = .deliver (.settings d.form.latestLoad result)) ∨
      d'.form.latestLoad = d.form.latestLoad ∧ d'.form.loading = d.form.loading ∧
        ∀ result, move ≠ .deliver (.settings d.form.latestLoad result) := by
  cases effect with
  | start | load _ | saved =>
      rw [key]
      exact .inl ⟨rfl, rfl, by simp⟩
  | @loaded generation result =>
      by_cases latest : generation = d.form.latestLoad
      · subst latest
        exact .inr (.inl ⟨Form.finishLoad_latestLoad _ _ _, Form.finishLoad_loading _ _, result, rfl⟩)
      · rw [Form.finishLoad_stale latest]
        exact .inr (.inr ⟨rfl, rfl, by simp [latest]⟩)
  | save _ =>
      obtain ⟨_, flag, latest⟩ := d.form.beginSave_keeps d.hasKey
      exact .inr (.inr ⟨latest, flag, by simp⟩)
  | silent silent =>
      refine .inr (.inr ⟨rfl, rfl, ?_⟩)
      intro result arrived
      rw [arrived] at silent
      exact silent.elim
  | steer _ | select _ | enter _ _ | leave | edit _ _ | status | unsaved =>
      exact .inr (.inr ⟨rfl, rfl, by simp⟩)

/-- **With a key the form is loading until the latest load is answered.** -/
theorem Run.loading_eq_false_iff {o : Origin} (key : o.hasKey = true) {history : List Transition}
    {w : World} (run : Run o history w) :
    w.desk.form.loading = false ↔ Answered history w.desk.form.latestLoad := by
  induction run with
  | start =>
      have desk : o.world.start.desk = { o.world.desk with form := (Form.new.beginLoad true).2 } :=
        key ▸ Console.refreshAndLoad_desk _ _
      rw [desk]
      constructor
      · nofun
      · rintro ⟨t, ht, result, arrived⟩
        rw [List.mem_singleton.1 ht] at arrived
        cases arrived
  | @step history w w' move before taken _ ih =>
      obtain ⟨latest, loading, silent⟩ | ⟨latest, loading, result, arrived⟩ |
        ⟨latest, loading, other⟩ := taken.effect.loading_cases (before.hasKey.trans key)
      · -- The load is new, and no answer to it can have arrived.
        rw [loading]
        constructor
        · nofun
        · intro answered
          rcases answered_cons.1 answered with ⟨result, arrived⟩ | ⟨t, ht, result, arrived⟩
          · exact absurd arrived (silent _ result)
          · have issued := before.le_latestLoad_of_arrived ht arrived
            have past := before.latestLoad_le t ht
            omega
      · rw [latest, loading]
        exact iff_of_true rfl (answered_cons.2 (.inl ⟨result, arrived⟩))
      · rw [latest, loading, ih, answered_cons]
        constructor
        · exact .inr
        · rintro (⟨result, arrived⟩ | answered)
          · exact absurd arrived (other result)
          · exact answered

/-! ## The flags -/

/-- A save that is in flight ends with the news of it, and not before. -/
theorem Effect.saving_cleared_iff {d d' : Desk} {move : Move} {jobs : List Job}
    (effect : Effect d move d' jobs) (saving : d.form.saving = true) :
    d'.form.saving = false ↔ ∃ result, move = .deliver (.saved result) := by
  have goesOn {form : Form} (same : form.saving = d.form.saving)
      (other : ∀ result, move ≠ .deliver (.saved result)) :
      form.saving = false ↔ ∃ result, move = .deliver (.saved result) := by
    rw [same, saving]
    exact iff_of_false (by simp) fun ⟨result, told⟩ => other result told
  cases effect with
  | silent silent =>
      refine goesOn rfl fun result told => ?_
      rw [told] at silent
      exact silent.elim
  | steer _ | select _ | enter _ _ | leave | edit _ _ | status => exact goesOn rfl (by simp)
  | start | load _ => cases hKey : d.hasKey <;> exact goesOn rfl (by simp)
  | save _ =>
      obtain ⟨_, _, free, _⟩ | ⟨same, _⟩ := d.form.beginSave_cases d.hasKey
      · cases free.symm.trans saving
      · exact goesOn (congrArg Form.saving same) (by simp)
  | @loaded generation result =>
      refine goesOn ?_ (by simp)
      unfold Form.finishLoad
      split
      · rfl
      · cases result <;> rfl
  | saved => cases hKey : d.hasKey <;> exact iff_of_true rfl ⟨_, rfl⟩
  | unsaved => exact iff_of_true rfl ⟨_, rfl⟩

/-- A load that is awaited ends with its answer, and not before. -/
theorem Step.loading_cleared_iff {w w' : World} {move : Move} (step : Step w move w')
    (tracked : Tracked w.desk w.inFlight) (loading : w.desk.form.loading = true) :
    w'.desk.form.loading = false ↔
      ∃ result, move = .deliver (.settings w.desk.form.latestLoad result) := by
  obtain ⟨_, goesOn, silent⟩ | ⟨_, ended, answered⟩ | ⟨_, same, other⟩ :=
    step.effect.loading_cases (tracked.hasKey loading)
  · rw [goesOn]
    exact iff_of_false (by simp) fun ⟨result, arrived⟩ => silent _ result arrived
  · exact iff_of_true ended answered
  · rw [same, loading]
    exact iff_of_false (by simp) fun ⟨result, arrived⟩ => other result arrived

theorem Run.loading_iff_latest {o : Origin} {history : List Transition} {w : World}
    (run : Run o history w) :
    w.desk.form.loading = true ↔
      ∃ generation, (loads history).head? = some generation ∧
        w.inFlight.count (.load generation) = 1 := by
  constructor
  · intro loading
    have latest := run.head?_loads_of_inFlight (run.tracked.loading_iff.2 loading)
    refine ⟨_, latest, ?_⟩
    rw [run.tracked.loading, loading]
    rfl
  · rintro ⟨generation, latest, one⟩
    obtain rfl := run.eq_latestLoad latest
    apply run.tracked.loading_iff.1
    rw [← Multiset.count_pos, one]
    exact Nat.one_pos

/-- **The flags of the form follow the requests in flight exactly.**  The form
is loading just while one request in flight is the load issued last, and then
only the answer to it ends the loading.  It is saving just while one request in
flight is a save, and then only the news of it end the saving. -/
theorem Run.flags_iff_inFlight {o : Origin} {history : List Transition} {w : World}
    (run : Run o history w) :
    (w.console.form.loading = true ↔
        ∃ generation, (loads history).head? = some generation ∧
          w.inFlight.count (.load generation) = 1) ∧
      (w.console.form.loading = false ↔
        ∀ generation, (loads history).head? = some generation →
          w.inFlight.count (.load generation) = 0) ∧
      (w.console.form.saving = true ↔ w.inFlight.count .save = 1) ∧
      (w.console.form.saving = false ↔ w.inFlight.count .save = 0) ∧
      ∀ move w', Step w move w' →
        (w.console.form.loading = true → (w'.console.form.loading = false ↔
          ∃ generation result, (loads history).head? = some generation ∧
            move = .deliver (.settings generation result))) ∧
        (w.console.form.saving = true → (w'.console.form.saving = false ↔
          ∃ result, move = .deliver (.saved result))) := by
  have tracked := run.tracked
  refine ⟨run.loading_iff_latest, ?_, ?_, ?_, fun move w' step => ⟨fun loading => ?_, ?_⟩⟩
  · constructor
    · intro idle generation latest
      obtain rfl := run.eq_latestLoad latest
      rw [tracked.loading]
      exact congrArg Bool.toNat idle
    · intro none
      rw [← Bool.not_eq_true]
      intro loading
      obtain ⟨generation, latest, one⟩ := run.loading_iff_latest.1 loading
      cases one.symm.trans (none generation latest)
  · rw [tracked.saving]
    exact Bool.toNat_eq_one.symm
  · rw [tracked.saving]
    exact Bool.toNat_eq_zero.symm
  · have latest := run.head?_loads_of_inFlight (tracked.loading_iff.2 loading)
    refine (step.loading_cleared_iff tracked loading).trans ?_
    simp [latest]
  · exact step.effect.saving_cleared_iff

/-- A save and two loads are in flight at once, and one of the loads is not
awaited any more. -/
theorem flags_iff_inFlight_overlapping : ∃ history w, Run .sample history w ∧
    .load 2 ∈ w.inFlight ∧ (loads history).head? = some 3 ∧
    w.inFlight.count (.load 3) = 1 ∧ w.inFlight.count .save = 1 := by
  have run := Run.sampleLoaded.step (.key (.char 's') .none) nofun
  have run := run.step (.key (.char 'R') .none) nofun
  have run := run.step (.key (.char 'R') .none) nofun
  obtain ⟨loading, _, saving, _⟩ := run.flags_iff_inFlight
  obtain ⟨generation, latest, one⟩ := loading.1 rfl
  have third : generation = 3 := run.eq_latestLoad latest
  subst third
  exact ⟨_, _, run, by decide +kernel, latest, one, saving.1 rfl⟩

end Dashboard
