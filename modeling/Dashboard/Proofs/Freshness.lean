import Dashboard.Proofs.Answers
import Dashboard.Proofs.LoadOrder

/-!
# What is shown after a save is fresh

What was asked before a save may be answered after it, with what the server had
before.  So the news that a save had succeeded are followed by a request for the
status and a load, and all earlier ones are superseded from then on: both are
numbered, and the number of the latest never goes back.

Answers to earlier requests may still arrive, in any order and with any result,
while more requests are issued and more saves are made.  None of them changes
anything.

## Main results

* `Run.keyed_of_save` — a save is in flight only if there is a key, so the load
  that follows it is issued.
* `Run.superseded_since` — a request that was issued before a save is superseded
  ever after.
* `Run.fresh_after_save` — what a save is followed by, and what becomes of the
  answers to earlier requests.
-/

namespace Dashboard

/-- A save is in flight only if there is a key. -/
theorem Run.keyed_of_save {o : Origin} {history : List Transition} {w : World}
    (run : Run o history w) (flying : .save ∈ w.inFlight) : w.console.hasKey = true := by
  obtain ⟨t, ht, job, hjob, request⟩ := run.issued_of_inFlight flying
  cases job with
  | saveSettings urls =>
      have key : t.source.desk.hasKey = true :=
        (((run.step_of_mem ht).saves_iff urls).1 hjob).2.1
      have fixed := run.before (P := fun w => w.desk.hasKey = o.hasKey) rfl
        (fun h step => step.effect.hasKey.trans h) t ht
      exact run.hasKey.trans (fixed.symm.trans key)
  | fetchStatus _ | fetchSettings _ => cases request

/-- What the news of a save lead to: both requests take the next number. -/
theorem Run.jobs_of_saved {o : Origin} {history : List Transition} {w w' : World}
    (run : Run o history w) (step : Step w (.deliver (.saved (.ok ()))) w') :
    Move.jobs w (.deliver (.saved (.ok ()))) =
        [.fetchStatus w'.console.cache.generation, .fetchSettings w'.console.form.latestLoad] ∧
      w'.console.cache.generation = w.console.cache.generation + 1 ∧
      w'.console.form.latestLoad = w.console.form.latestLoad + 1 := by
  have key : w.console.hasKey = true :=
    run.keyed_of_save (World.request_mem_of_mailbox step.waiting_of_deliver)
  have jobs : Move.jobs w (.deliver (.saved (.ok ()))) =
      [.fetchStatus (w.console.cache.generation + 1),
        .fetchSettings (w.console.form.latestLoad + 1)] :=
    Console.jobs_takeSaved_ok w.now key
  have generation : w'.console.cache.generation = w.console.cache.generation + 1 := by
    obtain ⟨_, none⟩ | ⟨next, _⟩ := Step.numbers_inquiries step
    · rw [jobs] at none
      cases none
    · exact next
  have latest : w'.console.form.latestLoad = w.console.form.latestLoad + 1 := by
    obtain ⟨_, none⟩ | ⟨next, _⟩ := Step.numbers_loads step
    · rw [jobs] at none
      cases none
    · exact next
  exact ⟨by rw [jobs, generation, latest], generation, latest⟩

/-- A request that was issued before a save is superseded ever after. -/
theorem Run.superseded_since {o : Origin} {newer older : List Transition} {t : Transition}
    {w : World} (run : Run o (newer ++ t :: older) w) (saves : t.Saves) {u : Transition}
    (hu : u ∈ older) {job : Job} (issued : job ∈ u.jobs) (fetches : job.request ≠ .save) :
    w.console.Superseded job.request := by
  cases run.of_append with
  | start => cases saves
  | @step _ v v' move before taken _ =>
      obtain rfl : move = .deliver (.saved (.ok ())) := saves
      obtain ⟨_, generation, latest⟩ := before.jobs_of_saved taken
      cases job with
      | fetchStatus number =>
          have earlier : number ≤ v.console.cache.generation :=
            before.le_counter Step.numbers_inquiries rfl
              (mem_handedOut.2 ⟨u, hu, _, issued, rfl⟩)
          have since : v'.console.cache.generation ≤ w.console.cache.generation :=
            run.counter_le_since Step.numbers_inquiries
          show number ≠ w.console.cache.generation
          omega
      | fetchSettings number =>
          have earlier : number ≤ v.console.form.latestLoad :=
            before.le_counter Step.numbers_loads rfl
              (mem_handedOut.2 ⟨u, hu, _, issued, rfl⟩)
          have since : v'.console.form.latestLoad ≤ w.console.form.latestLoad :=
            run.counter_le_since Step.numbers_loads
          show number ≠ w.console.form.latestLoad
          omega
      | saveSettings urls => exact absurd rfl fetches

/-- **What is shown after a save is fresh.**  The news that a save had succeeded
lead to one request for the status and then one load, which were not issued
before, and whose numbers are not larger than the count of the steps.  From then
on no answer to a request or a load that was issued before changes the console
or leads to a job, whatever it brings and whenever it arrives. -/
theorem Run.fresh_after_save {o : Origin} {newer older : List Transition} {t : Transition}
    {w : World} (run : Run o (newer ++ t :: older) w) (saves : t.Saves) :
    (∃ asked load, t.jobs = [.fetchStatus asked, .fetchSettings load] ∧
        asked ∉ inquiries older ∧ load ∉ loads older ∧
        asked ≤ (t :: older).length ∧ load ≤ (t :: older).length) ∧
      ∀ u ∈ older, ∀ job ∈ u.jobs, ∀ answer : Answer, answer.Fetched →
        answer.request = job.request → ∀ now,
          (w.console.update now answer.event).state = w.console ∧
            (w.console.update now answer.event).value = [] := by
  constructor
  · have after := run.of_append
    have asked := after.inquiries_numbered.2
    have loaded := after.loads_numbered.2
    cases after with
    | start => cases saves
    | @step _ v v' move before taken _ =>
        obtain rfl : move = .deliver (.saved (.ok ())) := saves
        obtain ⟨jobs, generation, latest⟩ := before.jobs_of_saved taken
        refine ⟨_, _, jobs, ?_, ?_, asked, loaded⟩
        · intro again
          have := before.le_counter Step.numbers_inquiries rfl again
          omega
        · intro again
          have : v'.console.form.latestLoad ≤ v.console.form.latestLoad :=
            before.le_counter Step.numbers_loads rfl again
          omega
  · intro u hu job issued answer fetched request now
    have superseded : w.console.Superseded answer.request :=
      request ▸ run.superseded_since saves hu issued (request ▸ fetched)
    exact ⟨Console.update_superseded now superseded, Console.jobs_of_fetched now fetched⟩

/-- A request for the status and a load are still under way when the news of a
save arrive.  Both are answered after that, the load with what it read before
the save, and neither answer changes anything. -/
theorem fresh_after_save_outstanding : ∃ newer t older w, Run .sample (newer ++ t :: older) w ∧
    t.Saves ∧ t.jobs = [.fetchStatus 2, .fetchSettings 3] ∧
    w.mailbox = {.settings 2 (.ok Origin.sample.server), .status 1 (.error .keyMissing)} ∧
    (w.console.update w.now (.settingsLoaded 2 (.ok Origin.sample.server))).state = w.console ∧
    (w.console.update w.now (.statusLoaded 1 (.error .keyMissing))).state = w.console := by
  let stored := Origin.sample.server
  let saved : Webhook.Urls := ⟨"a", "", ""⟩
  let status (generation : Nat) : Task := .new (.fetchStatus generation)
  let save : Task := .new (.saveSettings saved)
  let load : Task := ⟨.fetchSettings 2, .read stored⟩
  let backend : Backend := ⟨some (.error .keyMissing), .ok stored, fun _ => .ok ()⟩
  have run := Run.sampleLoaded.step (.key (.char 's') .none) nofun
  have run := run.step (.key (.char 'R') .none) nofun
  have run := run.step (@Step.read _ 2 {status 1, save} (by decide +kernel)) nofun
  have run := run.step (@Step.store _ saved {status 1, load} (by decide +kernel)) nofun
  have before := run.step (@Step.finish _ ⟨.saveSettings saved, .stored⟩ {status 1, load} backend
    (.saved (.ok ())) rfl (by simp [Task.Allows, backend]) rfl) nofun
  have run := before.step (@Step.deliver _ (.saved (.ok ())) 0 rfl) nofun
  have run := run.step (@Step.finish _ (status 1) {load, status 2, .new (.fetchSettings 3)} backend
    (.status 1 (.error .keyMissing)) (by decide +kernel) trivial rfl) nofun
  have run := run.step (@Step.finish _ load {status 2, .new (.fetchSettings 3)} backend
    (.settings 2 (.ok stored)) (by decide +kernel) (fun e same => by cases same; rfl) rfl) nofun
  have asked := (congrArg (1 ∈ ·) before.inquiries_numbered.1).mpr (by decide +kernel)
  have loaded := (congrArg (2 ∈ ·) before.loads_numbered.1).mpr (by decide +kernel)
  have fresh := (@Run.fresh_after_save _ [_, _] _ _ _ run rfl).2
  obtain ⟨u, hu, job, issued, number⟩ := mem_handedOut.1 asked
  obtain ⟨u', hu', job', issued', number'⟩ := mem_handedOut.1 loaded
  cases job <;> cases number
  cases job' <;> cases number'
  exact ⟨[_, _], _, _, _, run, rfl, by decide +kernel, rfl,
    (fresh u' hu' _ issued' (.settings 2 (.ok stored)) nofun rfl _).1,
    (fresh u hu _ issued (.status 1 (.error .keyMissing)) nofun rfl _).1⟩

end Dashboard
