import Dashboard.Proofs.InFlight

/-!
# The form converges with the server

Loads may be issued while a save is under way, and settings that were seen
before a save was stored may arrive after it.  Nevertheless the form ends up
with what the server has stored, once nothing is under way.

## Why stale settings do no harm

A save that was stored is heard of in the end, and then a newer load is issued.
So as long as no save was stored and not heard of, whatever was seen for the
*latest* load is what the server has stored.  `World.Unheard` and `World.Fresh`
are the two sides of this, and one of them holds at any time.

## Main results

* `Run.unheard_or_fresh` — what was seen for the latest load is what the server
  has stored, unless a save is unheard.
* `Run.urls_eq_resolve` — the form and the server agree when all is quiet.
-/

namespace Dashboard

open Webhook (Envelope Field Form Urls)

/-- A save was stored, and the console has not heard of it. -/
def World.Unheard (w : World) : Prop :=
  (∃ urls, ⟨.saveSettings urls, .stored⟩ ∈ w.work) ∨ .saved (.ok ()) ∈ w.mailbox

/-- What was seen for the latest load is what the server has stored. -/
structure World.Fresh (w : World) : Prop where
  seen : ∀ e, ⟨.fetchSettings w.desk.form.latestLoad, .read e⟩ ∈ w.work → e = w.server
  brought : ∀ e, .settings w.desk.form.latestLoad (.ok e) ∈ w.mailbox → e = w.server

/-! ## What a step does to tasks and answers -/

/-- A task that has come somewhere was there before the console reacted. -/
theorem World.mem_work_of_adopt {w : World} {reaction : Console.Reaction} {task : Task}
    (hmem : task ∈ (w.adopt reaction).work) (begun : task.progress ≠ .issued) :
    task ∈ w.work := by
  rcases mem_work_adopt.1 hmem with old | ⟨job, _, rfl⟩
  · exact old
  · exact absurd rfl begun

/-- What was seen for a load was seen before the step, or is what the server
has stored. -/
theorem Step.seen {w w' : World} {move : Move} (step : Step w move w') {generation : Nat}
    {e : Envelope} (hmem : ⟨.fetchSettings generation, .read e⟩ ∈ w'.work) :
    ⟨.fetchSettings generation, .read e⟩ ∈ w.work ∨ e = w.server := by
  cases step with
  | start | key => exact .inl (World.mem_work_of_adopt hmem (by simp))
  | deliver _ => exact .inl (World.mem_work_of_adopt hmem (by simp))
  | wait elapsed => exact .inl hmem
  | elsewhere settings => exact .inl hmem
  | read work =>
      rcases Multiset.mem_cons.1 hmem with same | old
      · cases same
        exact .inr rfl
      · exact .inl (work ▸ Multiset.mem_cons_of_mem old)
  | store work =>
      rcases Multiset.mem_cons.1 hmem with same | old
      · cases same
      · exact .inl (work ▸ Multiset.mem_cons_of_mem old)
  | finish work _ _ => exact .inl (work ▸ Multiset.mem_cons_of_mem hmem)
  | withdraw work _ => exact .inl (work ▸ Multiset.mem_cons_of_mem hmem)

/-- Settings on their way were on their way before the step, or were seen for
their load. -/
theorem Step.brought {w w' : World} {move : Move} (step : Step w move w') {generation : Nat}
    {e : Envelope} (hmem : .settings generation (.ok e) ∈ w'.mailbox) :
    .settings generation (.ok e) ∈ w.mailbox ∨
      ⟨.fetchSettings generation, .read e⟩ ∈ w.work := by
  cases step with
  | start | key | wait | read | store | elsewhere | withdraw => exact .inl hmem
  | deliver mailbox => exact .inl (mailbox ▸ Multiset.mem_cons_of_mem hmem)
  | @finish task rest backend answer work allowed answered =>
      rcases Multiset.mem_cons.1 hmem with rfl | old
      · right
        obtain ⟨_, _, _, other⟩ | ⟨g, hjob, same⟩ | ⟨_, _, other⟩ := Job.answered_cases answered
        · cases other
        · injection same with hgeneration hresult
          obtain ⟨job, progress⟩ := task
          subst hjob hgeneration
          have seen : progress = .read e := allowed e hresult.symm
          exact work ▸ seen ▸ Multiset.mem_cons_self _ _
        · cases other
      · exact .inl old

/-- A save that was stored is unheard until the news of it arrive. -/
theorem Step.unheard {w w' : World} {move : Move} (step : Step w move w') (unheard : w.Unheard)
    (silence : move ≠ .deliver (.saved (.ok ()))) : w'.Unheard := by
  obtain ⟨urls, stored⟩ | told := unheard
  · cases step with
    | start | key => exact .inl ⟨urls, World.mem_work_adopt.2 (.inl stored)⟩
    | deliver _ => exact .inl ⟨urls, World.mem_work_adopt.2 (.inl stored)⟩
    | wait elapsed => exact .inl ⟨urls, stored⟩
    | elsewhere settings => exact .inl ⟨urls, stored⟩
    | read work =>
        have old := (Multiset.mem_cons.1 (work ▸ stored)).resolve_left (by simp)
        exact .inl ⟨urls, Multiset.mem_cons_of_mem old⟩
    | store work =>
        have old := (Multiset.mem_cons.1 (work ▸ stored)).resolve_left (by simp)
        exact .inl ⟨urls, Multiset.mem_cons_of_mem old⟩
    | withdraw work _ =>
        have old := (Multiset.mem_cons.1 (work ▸ stored)).resolve_left (by simp)
        exact .inl ⟨urls, old⟩
    | finish work allowed answered =>
        rcases Multiset.mem_cons.1 (work ▸ stored) with rfl | old
        · -- The save ends, and the news of it are on their way.
          obtain ⟨_, _, other, _⟩ | ⟨_, other, _⟩ | ⟨_, same, rfl⟩ := Job.answered_cases answered
          · cases other
          · cases other
          · cases same
            rw [show _ = Except.ok () from allowed.2 rfl]
            exact .inr (Multiset.mem_cons_self _ _)
        · exact .inl ⟨urls, old⟩
  · cases step with
    | start | key | wait | read | store | elsewhere | withdraw => exact .inr told
    | finish => exact .inr (Multiset.mem_cons_of_mem told)
    | deliver mailbox =>
        rcases Multiset.mem_cons.1 (mailbox ▸ told) with rfl | old
        · exact absurd rfl silence
        · exact .inr old

/-- What the server has stored stays as long as nothing is unheard and nobody
else changes it. -/
theorem Step.server {w w' : World} {move : Move} (step : Step w move w')
    (alone : move ≠ .elsewhere) (heard : ¬ w'.Unheard) : w'.server = w.server := by
  cases step with
  | elsewhere _ => exact absurd rfl alone
  | store _ => exact absurd (.inl ⟨_, Multiset.mem_cons_self _ _⟩) heard
  | start | key | wait | read | finish | withdraw | deliver => rfl

/-! ## The invariant -/

theorem Step.latestLoad_saved {w w' : World} (step : Step w (.deliver (.saved (.ok ()))) w')
    (key : w.desk.hasKey = true) : w'.desk.form.latestLoad = w.desk.form.latestLoad + 1 := by
  have effect := step.effect
  generalize w'.desk = d' at effect
  generalize Move.jobs w _ = jobs at effect
  cases effect with
  | silent silent => exact silent.elim
  | saved => rw [key]; rfl

/-- If nothing is unheard after a step that issues no load, nothing was before. -/
theorem Step.heard {w w' : World} {move : Move} (step : Step w move w')
    (key : w.desk.hasKey = true) (same : w'.desk.form.latestLoad = w.desk.form.latestLoad)
    (heard : ¬ w'.Unheard) : ¬ w.Unheard := by
  intro unheard
  by_cases hear : move = .deliver (.saved (.ok ()))
  · subst hear
    have newer := step.latestLoad_saved key
    omega
  · exact heard (step.unheard unheard hear)

/-- A step keeps it so that whatever was seen for the latest load is what the
server has stored, unless a save was stored that the console has not heard of. -/
theorem Step.unheard_or_fresh {w w' : World} {move : Move} (step : Step w move w')
    (tracked : Tracked w.desk w.inFlight) (key : w.desk.hasKey = true)
    (alone : move ≠ .elsewhere) (before : w.Unheard ∨ w.Fresh) : w'.Unheard ∨ w'.Fresh := by
  by_cases heard : w'.Unheard
  · exact .inl heard
  right
  have server := step.server alone heard
  obtain ⟨latest, _⟩ | ⟨latest, _⟩ := step.effect.latestLoad_cases
  · have fresh : w.Fresh := before.resolve_left (step.heard key latest heard)
    constructor
    · intro e hmem
      rw [latest] at hmem
      rw [server]
      rcases step.seen hmem with old | now
      · exact fresh.seen e old
      · exact now
    · intro e hmem
      rw [latest] at hmem
      rw [server]
      rcases step.brought hmem with old | seen
      · exact fresh.brought e old
      · exact fresh.seen e seen
  · -- The load is new, and no other load in flight has its number.
    have unissued : .load (w.desk.form.latestLoad + 1) ∉ w.inFlight := by
      intro hmem
      have := tracked.issued _ hmem
      omega
    constructor
    · intro e hmem
      rw [latest] at hmem
      rw [server]
      rcases step.seen hmem with old | now
      · exact absurd (World.request_mem_of_work old) unissued
      · exact now
    · intro e hmem
      rw [latest] at hmem
      rcases step.brought hmem with old | seen
      · exact absurd (World.request_mem_of_mailbox old) unissued
      · exact absurd (World.request_mem_of_work seen) unissued

theorem Origin.fresh (o : Origin) : o.world.Fresh :=
  ⟨fun _ hmem => absurd hmem (Multiset.notMem_zero _),
    fun _ hmem => absurd hmem (Multiset.notMem_zero _)⟩

/-- **Whatever was seen for the latest load is what the server has stored**,
unless a save was stored that the console has not heard of. -/
theorem Run.unheard_or_fresh {o : Origin} (key : o.hasKey = true) {history : List Transition}
    {w : World} (run : Run o history w) (alone : Undisturbed history) : w.Unheard ∨ w.Fresh := by
  induction run with
  | start => exact Step.start.unheard_or_fresh o.tracked key (by simp) (.inr o.fresh)
  | step before taken _ ih =>
      apply taken.unheard_or_fresh before.tracked (before.hasKey.trans key)
      · exact alone _ List.mem_cons_self
      · exact ih fun t ht => alone t (List.mem_cons_of_mem _ ht)

/-! ## The working copy -/

/-- An edit came after this load was applied. -/
def EditedSince (history : List Transition) (generation : Nat) : Prop :=
  ∃ newer t older e, history = newer ++ t :: older ∧ t.Applies generation e ∧
    ∃ u ∈ newer, ∃ f, u.Edits f

/-- This load was applied, and no edit came after it. -/
def Holds (history : List Transition) (generation : Nat) : Prop :=
  ∃ newer t older e, history = newer ++ t :: older ∧ t.Applies generation e ∧
    ∀ u ∈ newer, ∀ f, ¬ u.Edits f

/-- A load that was applied is held if no edit came after it. -/
theorem holds_of_mem {history : List Transition} {generation : Nat} {t : Transition}
    {e : Envelope} (ht : t ∈ history) (applies : t.Applies generation e)
    (unedited : ¬ EditedSince history generation) : Holds history generation := by
  obtain ⟨newer, older, rfl⟩ := List.append_of_mem ht
  exact ⟨newer, t, older, e, rfl, applies,
    fun u hu f edits => unedited ⟨newer, t, older, e, rfl, applies, u, hu, f, edits⟩⟩

/-- If an edit came after a load was applied, the load was applied before the
last step. -/
theorem EditedSince.past {history : List Transition} {generation : Nat} {t : Transition}
    (edited : EditedSince (t :: history) generation) :
    ∃ u ∈ history, ∃ e, u.Applies generation e := by
  obtain ⟨newer, u, older, e, split, applies, v, hv, _⟩ := edited
  cases newer with
  | nil => exact absurd hv List.not_mem_nil
  | cons _ newer =>
      cases split
      exact ⟨u, by simp, e, applies⟩

/-- A load is held after a step if the step applied it, or if it was held
before and the step is no edit. -/
theorem Holds.cases_cons {history : List Transition} {generation : Nat} {t : Transition}
    (holds : Holds (t :: history) generation) :
    (∃ e, t.Applies generation e) ∨ (∃ u ∈ history, ∃ e, u.Applies generation e) ∧
      Holds history generation ∧ ∀ f, ¬ t.Edits f := by
  obtain ⟨newer, u, older, e, split, applies, unedited⟩ := holds
  cases newer with
  | nil =>
      cases split
      exact .inl ⟨e, applies⟩
  | cons t' newer =>
      cases split
      refine .inr ⟨⟨u, by simp, e, applies⟩, ⟨newer, u, older, e, rfl, applies, ?_⟩, ?_⟩
      · exact fun u hu => unedited u (List.mem_cons_of_mem _ hu)
      · exact unedited _ List.mem_cons_self

/-- Settings that are applied are what the server has stored, if no save is
unheard after it. -/
theorem Step.applied_fresh {w w' : World} {move : Move} (step : Step w move w') {generation : Nat}
    {e : Envelope} (applies : Transition.Applies ⟨w, move, w'⟩ generation e)
    (before : w.Unheard ∨ w.Fresh) (heard : ¬ w'.Unheard) : e = w'.server := by
  obtain rfl : move = .deliver (.settings generation (.ok e)) := applies.1
  have latest : generation = w.desk.form.latestLoad := applies.latest
  have fresh : w.Fresh := by
    apply before.resolve_left
    intro unheard
    exact heard (step.unheard unheard (by simp))
  rw [step.server (by simp) heard]
  exact fresh.brought e (latest ▸ step.waiting_of_deliver)

/-- A held load goes on to show what the server has stored. -/
theorem Step.held {history : List Transition} {w w' : World} {move : Move}
    (step : Step w move w') (key : w.desk.hasKey = true) (alone : move ≠ .elsewhere)
    (fresh : w.Unheard ∨ w.Fresh)
    (past : ∀ t ∈ history, t.source.desk.form.latestLoad ≤ w.desk.form.latestLoad)
    (before : Holds history w.desk.form.latestLoad →
      w.Unheard ∨ w.desk.form.urls = w.server.resolve)
    (holds : Holds (⟨w, move, w'⟩ :: history) w'.desk.form.latestLoad) :
    w'.Unheard ∨ w'.desk.form.urls = w'.server.resolve := by
  by_cases heard : w'.Unheard
  · exact .inl heard
  right
  by_cases applies : ∃ generation e, Transition.Applies ⟨w, move, w'⟩ generation e
  · obtain ⟨generation, e, applies⟩ := applies
    rw [step.urls_applied applies, step.applied_fresh applies fresh heard]
  · -- The load was applied before this step, and so no newer one was issued in it.
    obtain ⟨e, now⟩ | ⟨⟨u, hu, e, applied⟩, held, unedited⟩ := holds.cases_cons
    · exact absurd ⟨_, e, now⟩ applies
    have same : w'.desk.form.latestLoad = w.desk.form.latestLoad := by
      have := past u hu
      have := step.latestLoad_le
      have : w'.desk.form.latestLoad = u.source.desk.form.latestLoad := applied.latest
      omega
    have urls : w'.desk.form.urls = w.desk.form.urls := by
      apply step.urls_eq unedited
      intro generation e now
      exact applies ⟨generation, e, now⟩
    rw [same] at held
    rw [urls, step.server alone heard]
    exact (before held).resolve_left (step.heard key same heard)

/-- The latest load, once it is applied and as long as no edit comes after it,
shows what the server has stored, unless a save is unheard. -/
theorem Run.held {o : Origin} (key : o.hasKey = true) {history : List Transition} {w : World}
    (run : Run o history w) (alone : Undisturbed history) :
    Holds history w.desk.form.latestLoad → w.Unheard ∨ w.desk.form.urls = w.server.resolve := by
  induction run with
  | start =>
      apply Step.held (w := o.world) .start key (by simp) (.inr o.fresh)
      · intro t ht
        exact absurd ht List.not_mem_nil
      · rintro ⟨newer, t, older, e, split, _⟩
        simp at split
  | step before taken _ ih =>
      have earlier : Undisturbed _ := fun t ht => alone t (List.mem_cons_of_mem _ ht)
      exact taken.held (before.hasKey.trans key) (alone _ List.mem_cons_self)
        (before.unheard_or_fresh key earlier) before.latestLoad_le (ih earlier)

/-! ## When all is quiet -/

/-- An answer that was sent is on its way or has arrived. -/
theorem Run.sent {o : Origin} {history : List Transition} {w : World} (run : Run o history w)
    {answer : Answer} (sent : ∃ t ∈ history, t.move = .finish answer) :
    answer ∈ w.mailbox ∨ ∃ t ∈ history, t.move = .deliver answer := by
  refine run.induct (P := fun history w => (∃ t ∈ history, t.move = .finish answer) →
    answer ∈ w.mailbox ∨ ∃ t ∈ history, t.move = .deliver answer) ?_ ?_ sent
  · rintro ⟨t, ht, _⟩
    exact absurd ht List.not_mem_nil
  intro history w w' move ih step sent
  by_cases now : move = .finish answer
  · subst now
    cases step with
    | finish => exact .inl (Multiset.mem_cons_self _ _)
  have earlier : ∃ t ∈ history, t.move = .finish answer := by
    obtain ⟨t, ht, finished⟩ := sent
    rcases List.mem_cons.1 ht with rfl | ht
    · exact absurd finished now
    · exact ⟨t, ht, finished⟩
  obtain waiting | ⟨t, ht, arrived⟩ := ih earlier
  · cases step with
    | start | key | wait | read | store | elsewhere | withdraw => exact .inl waiting
    | finish => exact .inl (Multiset.mem_cons_of_mem waiting)
    | deliver mailbox =>
        rcases Multiset.mem_cons.1 (mailbox ▸ waiting) with rfl | old
        · exact .inr ⟨_, List.mem_cons_self, rfl⟩
        · exact .inl old
  · exact .inr ⟨t, List.mem_cons_of_mem _ ht, arrived⟩

/-- The settings that the latest load brought are applied when they arrive. -/
theorem Run.applies_of_arrived {o : Origin} {history : List Transition} {w : World}
    (run : Run o history w) {t : Transition} (ht : t ∈ history) {e : Envelope}
    (arrived : t.move = .deliver (.settings w.desk.form.latestLoad (.ok e))) :
    t.Applies w.desk.form.latestLoad e := by
  have latest := run.latestLoad_of_arrived ht arrived
  exact ⟨arrived, Form.value_finishLoad_eq_applied.2 ⟨latest.symm, e, rfl⟩⟩

/-- **The form converges with the server.**  Nothing is under way, the load
issued last ended with settings, and no edit came after they were applied: then
the form shows what the server has stored, if nobody else changed that.  Any
jobs may have failed before, and jobs and answers may have come in any order. -/
theorem Run.urls_eq_resolve {o : Origin} (key : o.hasKey = true) {history : List Transition}
    {w : World} (run : Run o history w) (alone : Undisturbed history) (quiet : w.Quiet)
    {generation : Nat}
    (latest : (loads history).head? = some generation)
    (ended : ∃ e, ∃ t ∈ history, t.move = .finish (.settings generation (.ok e)))
    (unedited : ¬ EditedSince history generation) :
    w.console.form.urls = w.server.resolve := by
  have number : generation = w.desk.form.latestLoad := by
    have head := run.head?_loads
    rw [latest] at head
    exact head
  subst number
  obtain ⟨e, ended⟩ := ended
  obtain waiting | ⟨t, ht, arrived⟩ := run.sent ended
  · rw [quiet.2] at waiting
    exact absurd waiting (Multiset.notMem_zero _)
  have holds := holds_of_mem ht (run.applies_of_arrived ht arrived) unedited
  refine (run.held key alone holds).resolve_left ?_
  rintro (⟨urls, stored⟩ | told)
  · rw [quiet.1] at stored
    exact Multiset.notMem_zero _ stored
  · rw [quiet.2] at told
    exact Multiset.notMem_zero _ told

/-- A load that is issued during a save sees what was stored before it and
arrives after the news of the save.  The form still ends up with what was
saved. -/
theorem urls_eq_resolve_overtaken : ∃ history w, Run .sample history w ∧
    Undisturbed history ∧ w.Quiet ∧
    (loads history).head? = some 3 ∧ w.server.resolve = ⟨"ab", "", ""⟩ ∧
    w.console.form.urls = w.server.resolve := by
  let stored := Origin.sample.server
  let saved : Urls := ⟨"ab", "", ""⟩
  let backend (e : Envelope) : Backend := ⟨some (.error .keyMissing), .ok e, fun _ => .ok ()⟩
  let status (generation : Nat) : Answer := .status generation (.error .keyMissing)
  have run := Run.start (o := .sample)
  have run := run.step (@Step.finish _ (.new (.fetchStatus 1)) {.new (.fetchSettings 1)}
    (backend stored) (status 1) (by decide) trivial rfl) nofun
  have run := run.step (@Step.deliver _ (status 1) 0 rfl) nofun
  have run := run.step (@Step.read _ 1 0 rfl) nofun
  have run := run.step (@Step.finish _ ⟨.fetchSettings 1, .read stored⟩ 0 (backend stored)
    (.settings 1 (.ok stored)) rfl (fun e same => by cases same; rfl) rfl) nofun
  have run := run.step (@Step.deliver _ (.settings 1 (.ok stored)) 0 rfl) nofun
  have run := run.step (.key .enter .none) nofun
  have run := run.step (.key (.char 'b') .none) nofun
  have run := run.step (.key .escape .none) nofun
  have run := run.step (.key (.char 's') .none) nofun
  have run := run.step (.key (.char 'R') .none) nofun
  have run := run.step (@Step.read _ 2 {.new (.saveSettings saved)} (by decide)) nofun
  have run := run.step (@Step.finish _ ⟨.fetchSettings 2, .read stored⟩
    {.new (.saveSettings saved)} (backend stored) (.settings 2 (.ok stored)) rfl
    (fun e same => by cases same; rfl) rfl) nofun
  have run := run.step (@Step.store _ saved 0 rfl) nofun
  have run := run.step (@Step.finish _ ⟨.saveSettings saved, .stored⟩ 0 (backend stored)
    (.saved (.ok ())) rfl (by simp [Task.Allows, backend]) rfl) nofun
  have run := run.step (@Step.deliver _ (.saved (.ok ())) {.settings 2 (.ok stored)} rfl) nofun
  have run := run.step (@Step.deliver _ (.settings 2 (.ok stored)) 0 rfl) nofun
  have run := run.step (@Step.finish _ (.new (.fetchStatus 2)) {.new (.fetchSettings 3)}
    (backend stored) (status 2) (by decide) trivial rfl) nofun
  have run := run.step (@Step.deliver _ (status 2) 0 rfl) nofun
  have run := run.step (@Step.read _ 3 0 rfl) nofun
  have run := run.step (@Step.finish _ ⟨.fetchSettings 3, .read (stored.store saved)⟩ 0
    (backend (stored.store saved)) (.settings 3 (.ok (stored.store saved))) rfl
    (fun e same => by cases same; rfl) rfl) nofun
  have run := run.step (@Step.deliver _ (.settings 3 (.ok (stored.store saved))) 0 rfl) nofun
  refine ⟨_, _, run, ?alone, ?quiet, ?latest, ?_, run.urls_eq_resolve rfl ?alone ?quiet ?latest
    ⟨_, _, List.mem_cons_of_mem _ List.mem_cons_self, rfl⟩ ?_⟩
  case alone => simp [Undisturbed]
  case quiet => exact ⟨by decide +kernel, rfl⟩
  case latest => decide +kernel
  · decide +kernel
  · -- No step before the last one applied this load.
    intro edited
    obtain ⟨u, hu, e, arrived, _⟩ := edited.past
    simp only [List.mem_cons, List.not_mem_nil, or_false] at hu
    rcases hu with rfl | rfl | rfl | rfl | rfl | rfl | rfl | rfl | rfl | rfl | rfl | rfl | rfl |
      rfl | rfl | rfl | rfl | rfl | rfl | rfl | rfl
    all_goals cases arrived

end Dashboard
