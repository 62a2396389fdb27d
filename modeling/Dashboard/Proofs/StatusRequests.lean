import Dashboard.Proofs.CacheHistory
import Dashboard.Proofs.InFlight

/-!
# Requests for the status

A request for the status is withdrawn as soon as a newer one is issued.  Nobody
waits for it from then on, but the withdrawal races with the answer: a request
that was withdrawn may end without a word, or still be answered.

Whichever it is, the request issued last is never withdrawn, so it is not lost,
and the answers to all others are dropped.  The invariant is
`StatusCache.InStep`: the cache awaits a request just while the latest one is
in flight, and all others in flight are withdrawn.

As with loads, the number of a request is never larger than the count of the
steps.

## Main results

* `Step.operates`, `Step.inquiry` — what a step does to the cache.
* `Run.inStep` — the cache is in step with the requests in flight.
* `Run.inquiries_numbered` — requests are numbered without a gap.
* `Run.awaits_latest` — what is awaited, what is withdrawn, and what is shown.
-/

namespace Dashboard

open StatusCache (Operation)
open Webhook (Envelope LoadStart SaveStart)

/-! ## What a step does to the cache -/

def Job.inquiry? : Job → Option Nat
  | .fetchStatus generation => some generation
  | .fetchSettings _ | .saveSettings _ => none

/-- The generations of the requests for the status that were issued, the newest
first. -/
def inquiries (history : List Transition) : List Nat := handedOut Job.inquiry? history

/-- The moves that lead to a request for the status. -/
def Move.Inquires : Move → Prop
  | .start | .deliver (.saved (.ok ())) => True
  | .key k modifiers => k = .char 'r' ∧ modifiers = .none
  | _ => False

/-- What a move can do to the cache, and the requests it can lead to. -/
inductive Inquiry (c : StatusCache) : Move → StatusCache → List Nat → Prop
  | idle {move : Move} (other : ∀ generation result, move ≠ .deliver (.status generation result)) :
      Inquiry c move c []
  | ask {move : Move} (asks : move.Inquires) : Inquiry c move c.refresh [c.generation + 1]
  | answer {generation : Nat} {result : Except ApiError ServerStatus} :
      Inquiry c (.deliver (.status generation result)) (c.commit generation result).state []

/-- Whether a key that is pressed in this mode asks for the status. -/
def Mode.AsksStatus (mode : Mode) (k : Key) (modifiers : Modifiers) : Prop :=
  mode = .viewing ∧ k = .char 'r' ∧ modifiers = .none

instance (mode : Mode) (k : Key) (modifiers : Modifiers) :
    Decidable (mode.AsksStatus k modifiers) :=
  inferInstanceAs (Decidable (_ ∧ _))

/-- What a move does with the cache, if anything, when it finds the console in this
mode. -/
def Move.operation? (mode : Mode) : Move → Option Operation
  | .start | .deliver (.saved (.ok ())) => some .refresh
  | .key k modifiers => if mode.AsksStatus k modifiers then some .refresh else none
  | .deliver (.status generation result) => some (.commit generation result)
  | _ => none

/-- The requests that an operation leads to. -/
def StatusCache.issues (c : StatusCache) : Option Operation → List Nat
  | some .refresh => [c.generation + 1]
  | _ => []

theorem inquiries_loadJobs (start : LoadStart) :
    start.jobs.reverse.filterMap Job.inquiry? = [] := by
  cases start <;> rfl

theorem inquiries_saveJobs (start : SaveStart) :
    start.jobs.reverse.filterMap Job.inquiry? = [] := by
  cases start <;> rfl

namespace Console

theorem loadSettings_cache (c : Console) (now : Nat) : (c.loadSettings now).state.cache = c.cache := by
  unfold loadSettings
  split <;> rfl

theorem saveSettings_cache (c : Console) (now : Nat) : (c.saveSettings now).state.cache = c.cache := by
  unfold saveSettings
  split <;> rfl

theorem refreshAndLoad_cache (c : Console) (now : Nat) :
    (c.refreshAndLoad now).state.cache = c.cache.refresh :=
  loadSettings_cache _ now

theorem refreshAndLoad_inquiries (c : Console) (now : Nat) :
    (c.refreshAndLoad now).value.reverse.filterMap Job.inquiry? = [c.cache.generation + 1] := by
  rw [refreshAndLoad_jobs, List.reverse_cons, List.filterMap_append, inquiries_loadJobs]
  rfl

/-- A reaction does this to the cache, if anything, and leads to a request just if
it issues one. -/
structure Reaction.Operates (c : Console) (operation? : Option Operation) (reaction : Reaction) :
    Prop where
  cache : reaction.state.cache = operation?.elim c.cache c.cache.apply
  inquiries : reaction.value.reverse.filterMap Job.inquiry? = c.cache.issues operation?

variable {c : Console}

private theorem operates_idle {c' : Console} (same : c'.cache = c.cache) :
    Reaction.Operates c none (quietly c') :=
  ⟨same, rfl⟩

private theorem operates_saveSettings {c' : Console} (now : Nat) (same : c'.cache = c.cache) :
    Reaction.Operates c none (c'.saveSettings now) where
  cache := (saveSettings_cache c' now).trans same
  inquiries := by
    rw [saveSettings_jobs, inquiries_saveJobs]
    rfl

private theorem operates_loadSettings (c : Console) (now : Nat) :
    Reaction.Operates c none (c.loadSettings now) where
  cache := loadSettings_cache c now
  inquiries := by
    rw [loadSettings_jobs, inquiries_loadJobs]
    rfl

theorem operates_refreshAndLoad (c : Console) (now : Nat) :
    Reaction.Operates c (some .refresh) (c.refreshAndLoad now) :=
  ⟨refreshAndLoad_cache c now, refreshAndLoad_inquiries c now⟩

theorem refreshStatus_of_asks {c : Console} {k : Key} {modifiers : Modifiers} (now : Nat)
    (asks : c.mode.AsksStatus k modifiers) :
    c.update now (.key k modifiers) = c.refreshStatus := by
  obtain ⟨viewing, rfl, rfl⟩ := asks
  simp only [update, viewing, viewingKey]
  rfl

theorem operates_key (c : Console) (now : Nat) (k : Key) (modifiers : Modifiers) :
    Reaction.Operates c ((Move.key k modifiers).operation? c.mode)
      (c.update now (.key k modifiers)) := by
  by_cases asks : c.mode.AsksStatus k modifiers
  · rw [Move.operation?, if_pos asks, refreshStatus_of_asks now asks]
    exact ⟨rfl, rfl⟩
  rw [Move.operation?, if_neg asks]
  have stroke := c.stroke now k modifiers
  generalize c.update now (.key k modifiers) = reaction at stroke
  cases stroke with
  | refresh viewing => exact absurd ⟨viewing, rfl, rfl⟩ asks
  | ignored | quit _ | select _ | leave _ | move _ _ | insert _ _ | clear _ _ =>
      exact operates_idle rfl
  | enter _ =>
      apply operates_idle
      unfold startEditing
      split <;> rfl
  | erase _ =>
      apply operates_idle
      unfold erase
      split <;> rfl
  | save _ _ => exact operates_saveSettings now rfl
  | leaveAndSave _ _ => exact operates_saveSettings now rfl
  | load _ => exact operates_loadSettings c now

private theorem operates_takeSettings (c : Console) (now : Nat) (generation : Nat)
    (result : Except ApiError Envelope) :
    Reaction.Operates c none (c.takeSettings now generation result) := by
  unfold takeSettings
  dsimp only
  split
  · exact ⟨rfl, rfl⟩
  · split <;> exact ⟨rfl, rfl⟩
  · exact ⟨rfl, rfl⟩

private theorem operates_takeSaved_ok (c : Console) (now : Nat) :
    Reaction.Operates c (some .refresh) (c.takeSaved now (.ok ())) := by
  let told := ({ c with form := { c.form with saving := false } } : Console).notify now
    .success "Webhook settings saved successfully!"
  have operates := operates_refreshAndLoad told now
  exact ⟨operates.cache, operates.inquiries⟩

theorem operates_answer (c : Console) (now : Nat) (answer : Answer) :
    Reaction.Operates c ((Move.deliver answer).operation? c.mode) (c.update now answer.event) := by
  cases answer with
  | status generation result => exact ⟨rfl, rfl⟩
  | settings generation result => exact operates_takeSettings c now generation result
  | saved result =>
      cases result with
      | ok => exact operates_takeSaved_ok c now
      | error e => exact ⟨rfl, rfl⟩

end Console

/-- **What a step does to the cache**, and the requests it leads to, are known from
the move and from the mode in which it finds the console. -/
theorem Step.operates {w w' : World} {move : Move} (step : Step w move w') :
    w'.console.cache =
        (move.operation? w.console.mode).elim w.console.cache w.console.cache.apply ∧
      (move.jobs w).reverse.filterMap Job.inquiry? =
        w.console.cache.issues (move.operation? w.console.mode) := by
  cases step with
  | start =>
      obtain ⟨cache, inquiries⟩ := w.console.operates_refreshAndLoad w.now
      exact ⟨cache, inquiries⟩
  | key k modifiers =>
      obtain ⟨cache, inquiries⟩ := w.console.operates_key w.now k modifiers
      exact ⟨cache, inquiries⟩
  | deliver _ =>
      obtain ⟨cache, inquiries⟩ := w.console.operates_answer w.now _
      exact ⟨cache, inquiries⟩
  | wait | read | store | elsewhere | finish | withdraw => exact ⟨rfl, rfl⟩

theorem Move.inquiry (c : StatusCache) (mode : Mode) (move : Move) :
    Inquiry c move ((move.operation? mode).elim c c.apply) (c.issues (move.operation? mode)) := by
  cases move with
  | start => exact .ask trivial
  | key k modifiers =>
      by_cases asks : mode.AsksStatus k modifiers
      · rw [operation?, if_pos asks]
        exact .ask ⟨asks.2.1, asks.2.2⟩
      · rw [operation?, if_neg asks]
        exact .idle nofun
  | deliver answer =>
      cases answer with
      | status generation result => exact .answer
      | settings generation result => exact .idle nofun
      | saved result =>
          cases result with
          | ok => exact .ask trivial
          | error e => exact .idle nofun
  | wait | serve | elsewhere | finish _ | withdraw _ => exact .idle nofun

theorem Step.inquiry {w w' : World} {move : Move} (step : Step w move w') :
    Inquiry w.console.cache move w'.console.cache
      ((move.jobs w).reverse.filterMap Job.inquiry?) := by
  obtain ⟨cache, inquiries⟩ := step.operates
  rw [cache, inquiries]
  exact move.inquiry w.console.cache w.console.mode

/-! ## The cache and the requests in flight -/

theorem Move.closes_status {move : Move} {generation : Nat}
    (closed : .status generation ∈ move.closes) :
    (∃ result, move = .deliver (.status generation result)) ∨ move = .withdraw generation := by
  cases move with
  | deliver answer => cases answer <;> simp_all [closes, Answer.request]
  | withdraw g => simp_all [closes]
  | start | key | wait | serve | elsewhere | finish => simp [closes] at closed

theorem count_status_requests (jobs : List Job) (generation : Nat) :
    (jobs.map Job.request).count (.status generation) =
      (jobs.reverse.filterMap Job.inquiry?).count generation := by
  rw [List.filterMap_reverse, List.count_reverse]
  induction jobs with
  | nil => rfl
  | cons job jobs ih =>
      cases job with
      | fetchStatus g => simp [Job.request, Job.inquiry?, List.count_cons, ih]
      | fetchSettings _ | saveSettings _ =>
          rw [List.map_cons, List.count_cons_of_ne (by simp [Job.request]),
            List.filterMap_cons_none rfl, ih]

/-- The cache is in step with the requests in flight: it awaits the latest one
just while that is in flight, and the others in flight are withdrawn. -/
structure StatusCache.InStep (c : StatusCache) (flight : Multiset Request) : Prop where
  opened : c.closed = false
  awaited : c.inFlight = if c.loading then some c.generation else none
  loading : flight.count (.status c.generation) = c.loading.toNat
  older : ∀ generation ∈ c.superseded, generation < c.generation
  withdrawn : ∀ generation, .status generation ∈ flight →
    generation = c.generation ∨ generation ∈ c.superseded

namespace StatusCache.InStep

variable {c c' : StatusCache} {flight flight' : Multiset Request}

theorem isWithdrawn_iff (h : c.InStep flight) (generation : Nat) :
    c.isWithdrawn generation = true ↔ generation ∈ c.superseded := by
  simp [isWithdrawn, h.opened]

/-- A request in flight is withdrawn just if it is not the latest one. -/
theorem isWithdrawn_iff_ne (h : c.InStep flight) {generation : Nat}
    (flying : .status generation ∈ flight) :
    c.isWithdrawn generation = true ↔ generation ≠ c.generation := by
  rw [h.isWithdrawn_iff]
  constructor
  · intro superseded
    exact (h.older generation superseded).ne
  · exact (h.withdrawn generation flying).resolve_left

theorem le_generation (h : c.InStep flight) {generation : Nat}
    (flying : .status generation ∈ flight) : generation ≤ c.generation := by
  rcases h.withdrawn generation flying with rfl | superseded
  · exact Nat.le_refl _
  · exact (h.older generation superseded).le

theorem loading_iff (h : c.InStep flight) :
    .status c.generation ∈ flight ↔ c.loading = true := by
  rw [← Multiset.count_pos, h.loading]
  cases c.loading <;> simp

/-- Requests may go as long as the latest one stays. -/
theorem fewer (h : c.InStep flight)
    (latest : flight'.count (.status c.generation) = flight.count (.status c.generation))
    (others : ∀ generation, .status generation ∈ flight' → .status generation ∈ flight) :
    c.InStep flight' :=
  ⟨h.opened, h.awaited, latest.trans h.loading, h.older, fun g hg => h.withdrawn g (others g hg)⟩

/-- A new request withdraws the one before it. -/
theorem refresh (h : c.InStep flight)
    (counts : ∀ generation, flight'.count (.status generation) =
      flight.count (.status generation) + [c.generation + 1].count generation) :
    c.refresh.InStep flight' := by
  refine
    { opened := h.opened
      awaited := rfl
      loading := ?_
      older := ?_
      withdrawn := ?_ }
  · have new : flight.count (.status (c.generation + 1)) = 0 := by
      rw [Multiset.count_eq_zero]
      intro flying
      have := h.le_generation flying
      omega
    show flight'.count (.status (c.generation + 1)) = 1
    rw [counts, new, List.count_singleton_self]
  · intro generation superseded
    show generation < c.generation + 1
    rcases List.mem_append.1 superseded with awaited | older
    · rw [h.awaited] at awaited
      cases hLoading : c.loading <;> simp [hLoading] at awaited
      omega
    · exact Nat.lt_succ_of_lt (h.older generation older)
  · intro generation flying
    show generation = c.generation + 1 ∨ generation ∈ c.inFlight.toList ++ c.superseded
    by_cases new : generation = c.generation + 1
    · exact .inl new
    have old : .status generation ∈ flight := by
      rw [← Multiset.count_pos, counts, List.count_singleton, if_neg (by simp [Ne.symm new])] at flying
      exact Multiset.count_pos.1 flying
    refine .inr (List.mem_append.2 ?_)
    rcases h.withdrawn generation old with rfl | superseded
    · left
      rw [h.awaited, h.loading_iff.1 old]
      exact List.mem_singleton_self _
    · exact .inr superseded

theorem commit (h : c.InStep flight) {generation : Nat} {result : Except ApiError ServerStatus}
    (counts : ∀ g, flight'.count (.status g) +
      ({.status generation} : Multiset Request).count (.status g) = flight.count (.status g)) :
    (c.commit generation result).state.InStep flight' := by
  have others : ∀ g, .status g ∈ flight' → .status g ∈ flight := by
    intro g flying
    rw [← Multiset.count_pos] at flying ⊢
    have := counts g
    omega
  by_cases latest : generation = c.generation
  · subst latest
    have answered : flight'.count (.status c.generation) = 0 := by
      have one := counts c.generation
      have flag := Bool.toNat_le c.loading
      rw [Multiset.count_singleton_self, h.loading] at one
      omega
    obtain ⟨problem, settled⟩ := c.commit_latest result
    rw [settled]
    exact ⟨h.opened, rfl, answered, h.older, fun g hg => h.withdrawn g (others g hg)⟩
  · rw [commit_stale latest]
    refine h.fewer ?_ others
    have apart : ({.status generation} : Multiset Request).count (.status c.generation) = 0 := by
      simp [Ne.symm latest]
    have := counts c.generation
    omega

/-- A step keeps the cache in step, if only a request that was withdrawn ends
without an answer. -/
theorem step (h : c.InStep flight) {move : Move} {asked : List Nat}
    (inquiry : Inquiry c move c' asked)
    (dropped : ∀ generation, move = .withdraw generation → c.isWithdrawn generation = true)
    (balance : ∀ generation, flight'.count (.status generation) +
      move.closes.count (.status generation) =
        flight.count (.status generation) + asked.count generation) :
    c'.InStep flight' := by
  cases inquiry with
  | idle other =>
      have kept : move.closes.count (.status c.generation) = 0 := by
        rw [Multiset.count_eq_zero]
        intro closed
        rcases Move.closes_status closed with ⟨result, arrived⟩ | gone
        · exact other _ _ arrived
        · have := h.older _ ((h.isWithdrawn_iff _).1 (dropped _ gone))
          omega
      refine h.fewer (by simpa [kept] using balance c.generation) fun generation flying => ?_
      have count : flight'.count (.status generation) + move.closes.count (.status generation) =
          flight.count (.status generation) := by simpa using balance generation
      rw [← Multiset.count_pos] at flying ⊢
      omega
  | ask asks =>
      refine h.refresh fun generation => ?_
      have kept : move.closes.count (.status generation) = 0 := by
        rw [Multiset.count_eq_zero]
        intro closed
        rcases Move.closes_status closed with ⟨result, rfl⟩ | rfl
        · exact asks
        · exact asks
      simpa [kept] using balance generation
  | answer =>
      refine h.commit fun generation => ?_
      simpa [Move.closes, Answer.request] using balance generation

end StatusCache.InStep

theorem Job.isWithdrawn_of_perform {generation : Nat} {backend : Backend} {cache : StatusCache}
    (withdrawn : (Job.fetchStatus generation).perform backend cache = .withdrawn) :
    cache.isWithdrawn generation = true := by
  simp only [perform] at withdrawn
  split at withdrawn
  · assumption
  · split at withdrawn <;> cases withdrawn

theorem Step.inStep {w w' : World} {move : Move} (step : Step w move w')
    (before : w.console.cache.InStep w.inFlight) : w'.console.cache.InStep w'.inFlight := by
  refine before.step step.inquiry ?_ fun generation => ?_
  · rintro generation rfl
    cases step with
    | withdraw _ withdrawn => exact Job.isWithdrawn_of_perform withdrawn
  · rw [← count_status_requests]
    simpa using congrArg (Multiset.count (.status generation)) step.balance

theorem Origin.inStep (o : Origin) : o.world.console.cache.InStep o.world.inFlight :=
  ⟨rfl, rfl, rfl, fun _ hg => absurd hg List.not_mem_nil,
    fun _ hg => absurd hg (Multiset.notMem_zero _)⟩

/-- **The cache is in step with the requests in flight** in every world that is
reached. -/
theorem Run.inStep {o : Origin} {history : List Transition} {w : World}
    (run : Run o history w) : w.console.cache.InStep w.inFlight :=
  run.invariant (P := fun w => w.console.cache.InStep w.inFlight) o.inStep
    fun before step => step.inStep before

/-! ## The latest request -/

theorem Inquiry.generation_cases {c c' : StatusCache} {move : Move} {asked : List Nat}
    (inquiry : Inquiry c move c' asked) :
    (c'.generation = c.generation ∧ asked = []) ∨
      (c'.generation = c.generation + 1 ∧ asked = [c'.generation]) := by
  cases inquiry with
  | idle _ => exact .inl ⟨rfl, rfl⟩
  | ask _ => exact .inr ⟨rfl, rfl⟩
  | answer => exact .inl ⟨c.commit_generation _ _, rfl⟩

theorem Step.numbers_inquiries : Step.Numbers Job.inquiry? fun w => w.console.cache.generation :=
  fun step => step.inquiry.generation_cases

theorem Run.inquiries_numbered {o : Origin} {history : List Transition} {w : World}
    (run : Run o history w) :
    inquiries history = (List.range' 1 w.console.cache.generation).reverse ∧
      w.console.cache.generation ≤ history.length :=
  run.numbered Step.numbers_inquiries rfl

/-- The console starts with a request, so there always is a latest one. -/
theorem Run.head?_inquiries {o : Origin} {history : List Transition} {w : World}
    (run : Run o history w) :
    (inquiries history).head? = some w.console.cache.generation := by
  have issued : 0 < w.console.cache.generation := by
    induction run with
    | start =>
        have cache : o.world.start.console.cache = o.world.console.cache.refresh :=
          Console.refreshAndLoad_cache _ _
        rw [cache]
        exact Nat.succ_pos _
    | step _ taken _ ih =>
        rcases taken.inquiry.generation_cases with ⟨same, _⟩ | ⟨next, _⟩ <;> omega
  obtain ⟨n, hn⟩ := Nat.exists_eq_succ_of_ne_zero issued.ne'
  rw [run.inquiries_numbered.1, hn, Nat.succ_eq_add_one, List.range'_concat, List.reverse_append,
    Nat.one_mul, Nat.add_comm]
  rfl

/-! ## What is shown -/

/-- What is shown of the status changed, be it the status or the problem. -/
def Transition.ChangesStatus (t : Transition) : Prop :=
  t.target.console.cache.status ≠ t.source.console.cache.status ∨
    t.target.console.cache.problem ≠ t.source.console.cache.problem

/-- What is shown changes by the answer to the latest request, and a new request
takes the problem away. -/
theorem Inquiry.changes_cases {c c' : StatusCache} {move : Move} {asked : List Nat}
    (inquiry : Inquiry c move c' asked)
    (changes : c'.status ≠ c.status ∨ c'.problem ≠ c.problem) :
    (∃ result, move = .deliver (.status c.generation result) ∧ c'.status = result.toOption) ∨
      (∀ generation result, move ≠ .deliver (.status generation result)) ∧
        asked = [c.generation + 1] ∧ c'.status = c.status ∧ c'.problem = none := by
  cases inquiry with
  | idle _ => simp at changes
  | ask asks =>
      refine .inr ⟨?_, rfl, rfl, rfl⟩
      rintro generation result rfl
      exact asks
  | @answer generation result =>
      by_cases latest : generation = c.generation
      · subst latest
        obtain ⟨problem, settled⟩ := c.commit_latest result
        exact .inl ⟨result, rfl, by rw [settled]⟩
      · rw [StatusCache.commit_stale latest] at changes
        simp at changes

theorem Step.changes_cases {w w' : World} {move : Move} (step : Step w move w')
    (changes : Transition.ChangesStatus ⟨w, move, w'⟩) :
    (∃ result, move = .deliver (.status w.console.cache.generation result) ∧
        w'.console.cache.status = result.toOption) ∨
      (∀ generation result, move ≠ .deliver (.status generation result)) ∧
        (∃ generation, .fetchStatus generation ∈ move.jobs w) ∧
        w'.console.cache.status = w.console.cache.status ∧ w'.console.cache.problem = none := by
  obtain answered | ⟨other, asked, kept, cleared⟩ := step.inquiry.changes_cases changes
  · exact .inl answered
  refine .inr ⟨other, ⟨w.console.cache.generation + 1, ?_⟩, kept, cleared⟩
  have issued : w.console.cache.generation + 1 ∈ (move.jobs w).reverse.filterMap Job.inquiry? :=
    asked ▸ List.mem_singleton_self _
  obtain ⟨job, hjob, number⟩ := List.mem_filterMap.1 issued
  cases job <;> cases number
  exact List.mem_reverse.1 hjob

/-- **The request for the status that was issued last is awaited, and no other.**
The cache is loading just while that request is in flight.  A request under way
is withdrawn just if it is not that request.  An answer that changes what is
shown is the one with which the request ended that was issued last by then;
else only a new request changes it, which takes the problem away. -/
theorem Run.awaits_latest {o : Origin} {history : List Transition} {w : World}
    (run : Run o history w) :
    (w.console.cache.loading = true ↔
        ∃ generation, (inquiries history).head? = some generation ∧
          w.inFlight.count (.status generation) = 1) ∧
      (w.console.cache.loading = false ↔
        ∀ generation, (inquiries history).head? = some generation →
          w.inFlight.count (.status generation) = 0) ∧
      (∀ generation progress, ⟨.fetchStatus generation, progress⟩ ∈ w.work →
        (w.console.cache.isWithdrawn generation = true ↔
          (inquiries history).head? ≠ some generation)) ∧
      ∀ newer t older, history = newer ++ t :: older → t.ChangesStatus →
        (∃ generation result, t.move = .deliver (.status generation result) ∧
            (inquiries older).head? = some generation ∧
            (∃ u ∈ older, u.move = .finish (.status generation result)) ∧
            t.target.console.cache.status = result.toOption) ∨
          (∀ generation result, t.move ≠ .deliver (.status generation result)) ∧
            (∃ generation, .fetchStatus generation ∈ t.jobs) ∧
            t.target.console.cache.status = t.source.console.cache.status ∧
            t.target.console.cache.problem = none := by
  have latest := run.head?_inquiries
  have inStep := run.inStep
  refine ⟨?_, ?_, ?_, ?_⟩
  · simp only [latest, Option.some.injEq, exists_eq_left']
    rw [inStep.loading]
    exact Bool.toNat_eq_one.symm
  · simp only [latest, Option.some.injEq, forall_eq']
    rw [inStep.loading]
    exact Bool.toNat_eq_zero.symm
  · intro generation progress underway
    have flying : .status generation ∈ w.inFlight := World.request_mem_of_work underway
    rw [inStep.isWithdrawn_iff_ne flying, latest, ne_eq, ne_eq, Option.some.injEq, eq_comm]
  · rintro newer t older rfl changes
    cases run.of_append with
    | start =>
        obtain ⟨_, other, _⟩ | asked := (Step.start (w := o.world)).changes_cases changes
        · cases other
        · exact .inr asked
    | step before taken _ =>
        obtain ⟨result, rfl, shown⟩ | asked := taken.changes_cases changes
        · exact .inl ⟨_, result, rfl, before.head?_inquiries,
            before.sent_of_mailbox taken.waiting_of_deliver, shown⟩
        · exact .inr asked

/-- Two requests are superseded.  One of them is answered all the same, the other
ends without a word, and what is shown is the answer to the third. -/
theorem awaits_latest_superseded : ∃ t older w, Run .sample (t :: older) w ∧
    (∃ u ∈ older, ∃ result, u.move = .deliver (.status 1 result)) ∧
    (∃ u ∈ older, u.move = .withdraw 2) ∧
    t.ChangesStatus ∧ (inquiries older).head? = some 3 ∧
    t.target.console.cache.status = some ⟨true, true, ⟨true, true, true, true, true⟩⟩ := by
  let late : ServerStatus := ⟨false, false, ⟨false, false, false, false, false⟩⟩
  let fresh : ServerStatus := ⟨true, true, ⟨true, true, true, true, true⟩⟩
  let load : Task := .new (.fetchSettings 1)
  let second : Task := .new (.fetchStatus 2)
  let third : Task := .new (.fetchStatus 3)
  let backend (s : ServerStatus) : Backend := ⟨some (.ok s), .error .keyMissing, fun _ => .ok ()⟩
  have run := Run.start (o := .sample)
  have run := run.step (.key (.char 'r') .none) nofun
  have run := run.step (.key (.char 'r') .none) nofun
  have run := run.step (@Step.finish _ (.new (.fetchStatus 1)) {load, second, third} (backend late)
    (.status 1 (.ok late)) (by decide +kernel) trivial rfl) nofun
  have run := run.step (@Step.withdraw _ 2 .issued {load, third} (backend late) (by decide +kernel)
    rfl) nofun
  have run := run.step (@Step.deliver _ (.status 1 (.ok late)) 0 rfl) nofun
  have run := run.step (@Step.finish _ third {load} (backend fresh) (.status 3 (.ok fresh))
    (by decide +kernel) trivial rfl) nofun
  have run := run.step (@Step.deliver _ (.status 3 (.ok fresh)) 0 rfl) nofun
  obtain ⟨generation, result, arrived, latest, _, shown⟩ | ⟨other, _⟩ :=
    run.awaits_latest.2.2.2 [] _ _ rfl (.inl (by decide +kernel))
  · cases arrived
    refine ⟨_, _, _, run, ⟨_, List.mem_cons_of_mem _ List.mem_cons_self, _, rfl⟩,
      ⟨_, List.mem_cons_of_mem _ (List.mem_cons_of_mem _ List.mem_cons_self), rfl⟩,
      .inl (by decide +kernel), latest, shown⟩
  · exact absurd rfl (other _ _)

end Dashboard
