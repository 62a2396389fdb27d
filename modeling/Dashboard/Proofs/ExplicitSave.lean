import Dashboard.Proofs.InFlight

/-!
# Nothing is stored unless somebody asks for it

A save is handed out for a key and for nothing else.  It carries the working
copy as it was when the key was pressed, and from then on nothing changes what
it carries: what is typed or loaded later changes the working copy only.

At most one save is in flight, so the URLs of a save under way are those that
were posted last.

## Main results

* `Run.payload` — a save under way carries what was posted last.
* `Run.saves_when_asked` — when saves are handed out, what they carry, and what
  the server stores.
-/

namespace Dashboard

open Webhook (Envelope Urls)

def Job.payload? : Job → Option Urls
  | .saveSettings urls => some urls
  | .fetchStatus _ | .fetchSettings _ => none

/-- The URLs of the saves that were handed out, the newest first. -/
def posts (history : List Transition) : List Urls := handedOut Job.payload? history

/-- A save is handed out alone, and only if none is in flight. -/
theorem Effect.posts_cases {d d' : Desk} {move : Move} {jobs : List Job}
    (effect : Effect d move d' jobs) :
    (∃ urls, jobs = [.saveSettings urls] ∧ d.form.saving = false) ∨
      ∀ urls, .saveSettings urls ∉ jobs := by
  cases effect with
  | silent _ | select _ | enter _ _ | leave | edit _ _ | status | loaded | unsaved =>
      exact .inr fun _ => List.not_mem_nil
  | steer calm =>
      refine .inr fun urls posted => ?_
      obtain ⟨generation, other⟩ := calm _ posted
      cases other
  | start | load _ | saved =>
      refine .inr fun urls => ?_
      cases d.hasKey <;> simp [Webhook.Form.beginLoad, Webhook.LoadStart.jobs]
  | save _ =>
      obtain ⟨issue, _, free, _⟩ | ⟨_, none⟩ := d.form.beginSave_cases d.hasKey
      · rw [issue]
        exact .inl ⟨_, rfl, free⟩
      · rw [none]
        exact .inr fun _ => List.not_mem_nil

theorem Effect.jobs_of_post {d d' : Desk} {move : Move} {jobs : List Job}
    (effect : Effect d move d' jobs) {urls : Urls} (posted : .saveSettings urls ∈ jobs) :
    jobs = [.saveSettings urls] := by
  obtain ⟨urls', alone, _⟩ | none := effect.posts_cases
  · rw [alone] at posted ⊢
    exact (congrArg (fun job => [job]) (List.mem_singleton.1 posted)).symm
  · exact absurd posted (none urls)

/-! ## What a save carries -/

/-- A job under way was under way before the step, or was handed out in it. -/
theorem Step.job_of_mem {w w' : World} {move : Move} (step : Step w move w') {task : Task}
    (underway : task ∈ w'.work) :
    (∃ old ∈ w.work, old.job = task.job) ∨ task.job ∈ move.jobs w := by
  have adopted {u : World} {reaction : Console.Reaction} (hmem : task ∈ (u.adopt reaction).work) :
      task ∈ u.work ∨ task.job ∈ reaction.value := by
    rcases World.mem_work_adopt.1 hmem with old | ⟨job, issued, rfl⟩
    · exact .inl old
    · exact .inr issued
  have stays (old : task ∈ w.work) :
      (∃ old ∈ w.work, old.job = task.job) ∨ task.job ∈ move.jobs w := .inl ⟨task, old, rfl⟩
  cases step with
  | start | key => exact (adopted underway).elim stays .inr
  | deliver _ => exact (adopted underway).elim stays .inr
  | wait | elsewhere => exact stays underway
  | read work | store work =>
      rcases Multiset.mem_cons.1 underway with rfl | old
      · refine .inl ⟨Task.new _, ?_, rfl⟩
        rw [work]
        exact Multiset.mem_cons_self _ _
      · exact stays (work ▸ Multiset.mem_cons_of_mem old)
  | finish work _ _ => exact stays (work ▸ Multiset.mem_cons_of_mem underway)
  | withdraw work _ => exact stays (work ▸ Multiset.mem_cons_of_mem underway)

/-- The URLs of a save under way are those that were posted last. -/
def Carries (history : List Transition) (w : World) : Prop :=
  ∀ task ∈ w.work, ∀ urls, task.job = .saveSettings urls → (posts history).head? = some urls

theorem Step.carries {history : List Transition} {w w' : World} {move : Move}
    (step : Step w move w') (tracked : Tracked w.desk w.inFlight) (before : Carries history w) :
    Carries (⟨w, move, w'⟩ :: history) w' := by
  intro task underway urls carried
  rw [posts, handedOut_cons]
  show ((move.jobs w).reverse.filterMap Job.payload? ++ posts history).head? = some urls
  obtain ⟨posted, alone, free⟩ | none := step.effect.posts_cases
  · rw [alone]
    rcases step.job_of_mem underway with ⟨old, hold, same⟩ | new
    · -- No save was under way when this one was handed out.
      have flying : Request.save ∈ w.inFlight := by
        have request := World.request_mem_of_work hold
        rwa [same, carried] at request
      cases free.symm.trans (tracked.saving_iff.1 flying)
    · rw [alone, carried] at new
      cases List.mem_singleton.1 new
      rfl
  · have silent : (move.jobs w).reverse.filterMap Job.payload? = [] := by
      rw [List.filterMap_eq_nil_iff]
      intro job hjob
      cases job with
      | saveSettings urls => exact absurd (List.mem_reverse.1 hjob) (none urls)
      | fetchStatus _ | fetchSettings _ => rfl
    rw [silent]
    rcases step.job_of_mem underway with ⟨old, hold, same⟩ | new
    · exact before old hold urls (same.trans carried)
    · exact absurd (carried ▸ new) (none urls)

theorem Run.carries {o : Origin} {history : List Transition} {w : World}
    (run : Run o history w) : Carries history w := by
  have both : Tracked w.desk w.inFlight ∧ Carries history w := by
    refine run.induct (P := fun history w => Tracked w.desk w.inFlight ∧ Carries history w)
      ⟨o.tracked, fun _ underway => absurd underway (Multiset.notMem_zero _)⟩ ?_
    rintro history w w' move ⟨tracked, before⟩ step
    exact ⟨tracked.step step.effect step.balance, step.carries tracked before⟩
  exact both.2

theorem Run.payload {o : Origin} {history : List Transition} {w : World}
    (run : Run o history w) {urls : Urls} {progress : Progress}
    (underway : ⟨.saveSettings urls, progress⟩ ∈ w.work) : (posts history).head? = some urls :=
  run.carries _ underway urls rfl

/-! ## What the server stores -/

/-- What the server has stored changes by a save under way, or by somebody else. -/
theorem Step.server_cases {w w' : World} {move : Move} (step : Step w move w') :
    w'.server = w.server ∨ move = .elsewhere ∨
      ∃ urls, ⟨.saveSettings urls, .issued⟩ ∈ w.work ∧ w'.server = w.server.store urls := by
  cases step with
  | store work => exact .inr (.inr ⟨_, work ▸ Multiset.mem_cons_self _ _, rfl⟩)
  | elsewhere _ => exact .inr (.inl rfl)
  | start | key | wait | read | finish | withdraw | deliver => exact .inl rfl

/-- **Nothing is stored unless somebody asks for it.**  A save is handed out just
for a key that asks for one where there is an API key and no save and no load is
in flight; it is handed out alone and carries the working copy of that moment.
At most one save is in flight, and the backend is given what was posted last.
The server stores nothing else, unless somebody else does. -/
theorem Run.saves_when_asked {o : Origin} {history : List Transition} {w : World}
    (run : Run o history w) :
    (∀ t ∈ history, ∀ urls, .saveSettings urls ∈ t.jobs ↔ t.AsksToSave ∧
        t.source.console.hasKey = true ∧ t.source.console.form.saving = false ∧
          t.source.console.form.loading = false ∧ urls = t.source.console.form.urls) ∧
      (∀ t ∈ history, ∀ urls, .saveSettings urls ∈ t.jobs → t.jobs = [.saveSettings urls]) ∧
      w.inFlight.count .save ≤ 1 ∧
      (∀ urls progress, ⟨.saveSettings urls, progress⟩ ∈ w.work →
        (posts history).head? = some urls ∧ ∀ backend cache,
          (Job.saveSettings urls).perform backend cache =
            .answered (.settingsSaved (backend.save urls))) ∧
      ∀ newer t older, history = newer ++ t :: older → t.target.server ≠ t.source.server →
        t.move = .elsewhere ∨ ∃ urls, (posts older).head? = some urls ∧
          t.target.server = t.source.server.store urls := by
  have taken (t : Transition) (ht : t ∈ history) : Step t.source t.move t.target := by
    obtain ⟨newer, older, rfl⟩ := List.append_of_mem ht
    exact run.of_append.head_step
  refine ⟨fun t ht => (taken t ht).saves_iff, fun t ht _ => (taken t ht).effect.jobs_of_post, ?_,
    fun urls progress underway => ⟨run.payload underway, fun _ _ => rfl⟩, ?_⟩
  · rw [run.tracked.saving]
    exact Bool.toNat_le _
  · rintro newer t older rfl changed
    cases run.of_append with
    | start => exact absurd rfl changed
    | step before step _ =>
        obtain same | other | ⟨urls, underway, stored⟩ := step.server_cases
        · exact absurd same changed
        · exact .inl other
        · exact .inr ⟨urls, before.payload underway, stored⟩

/-- After a save was handed out the URL is edited further and then loaded anew,
and still what was posted is stored. -/
theorem saves_when_asked_overwritten : ∃ history w, Run .sample history w ∧
    ⟨.saveSettings ⟨"ab", "", ""⟩, .stored⟩ ∈ w.work ∧
    w.console.form.urls = ⟨"a", "", ""⟩ ∧ w.server.resolve = ⟨"ab", "", ""⟩ ∧
    (posts history).head? = some ⟨"ab", "", ""⟩ := by
  let stored := Origin.sample.server
  let saved : Urls := ⟨"ab", "", ""⟩
  let status : Task := .new (.fetchStatus 1)
  let save : Task := .new (.saveSettings saved)
  let backend : Backend := ⟨none, .ok stored, fun _ => .ok ()⟩
  have run := Run.sampleLoaded.step (.key .enter .none) nofun
  have run := run.step (.key (.char 'b') .none) nofun
  have run := run.step (.key (.char 's') .onlyControl) nofun
  have run := run.step (.key .enter .none) nofun
  have run := run.step (.key (.char 'c') .none) nofun
  have run := run.step (.key .escape .none) nofun
  have run := run.step (.key (.char 'R') .none) nofun
  have run := run.step (@Step.read _ 2 {status, save} (by decide +kernel)) nofun
  have run := run.step (@Step.finish _ ⟨.fetchSettings 2, .read stored⟩ {status, save} backend
    (.settings 2 (.ok stored)) rfl (fun e same => by cases same; rfl) rfl) nofun
  have run := run.step (@Step.deliver _ (.settings 2 (.ok stored)) 0 rfl) nofun
  have run := run.step (@Step.store _ saved {status} (by decide +kernel)) nofun
  have underway := Multiset.mem_cons_self (Task.mk (.saveSettings saved) .stored) {status}
  exact ⟨_, _, run, underway, by decide +kernel, by decide +kernel,
    (run.saves_when_asked.2.2.2.1 saved .stored underway).1⟩

end Dashboard
