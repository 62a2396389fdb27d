import Dashboard.Proofs.InFlight

/-!
# Saves before the first load

Before its first load the form is empty.  A save then stores empty URLs over
those that the server has.  A save is refused while a load is in flight, and
that covers the time until the first load is answered.  It does not cover a
first load that failed: then nothing is in flight, and the form is still empty.

## Main results

* `Run.posts_unloaded_iff` — just when a save is handed out before any load was
  applied, and what it posts.
* `posts_empty_urls` — such a save, over a URL that the server has stored.
-/

namespace Dashboard

open Webhook (Envelope Field Form Urls)

/-- Some load was applied. -/
def Loaded (history : List Transition) : Prop :=
  ∃ t ∈ history, ∃ generation e, t.Applies generation e

/-- A URL that was not edited is empty before the first load. -/
theorem Run.text_unloaded {o : Origin} {history : List Transition} {w : World}
    (run : Run o history w) (unloaded : ¬ Loaded history) {f : Field}
    (unedited : ∀ t ∈ history, ¬ t.Edits f) : w.text f = "" := by
  refine run.induct (P := fun history w => ¬ Loaded history → (∀ t ∈ history, ¬ t.Edits f) →
    w.text f = "") ?_ ?_ unloaded unedited
  · intro _ _
    cases f <;> rfl
  · intro history w w' move ih step unloaded unedited
    have before : w.text f = "" := by
      apply ih
      · rintro ⟨t, ht, applied⟩
        exact unloaded ⟨t, List.mem_cons_of_mem _ ht, applied⟩
      · intro t ht
        exact unedited t (List.mem_cons_of_mem _ ht)
    have kept : w'.text f = w.text f := by
      apply step.text_eq
      · exact unedited _ List.mem_cons_self
      · intro generation e applies
        exact unloaded ⟨_, List.mem_cons_self, generation, e, applies⟩
    rw [kept, before]

/-- Before any load was applied, nothing but a failure can have answered the
latest load. -/
theorem Run.answered_unloaded {o : Origin} {history : List Transition} {w : World}
    (run : Run o history w) (unloaded : ¬ Loaded history) :
    Answered history w.desk.form.latestLoad ↔
      ∃ t ∈ history, ∃ e, t.Takes w.desk.form.latestLoad (.error e) (.failed e) := by
  constructor
  · rintro ⟨t, ht, result, arrived⟩
    have latest := run.latestLoad_of_arrived ht arrived
    cases result with
    | ok e =>
        have applied := Form.value_finishLoad_eq_applied.2 ⟨latest.symm, e, rfl⟩
        exact absurd ⟨t, ht, _, e, arrived, applied⟩ unloaded
    | error e =>
        exact ⟨t, ht, e, arrived, Form.value_finishLoad_eq_failed.2 ⟨latest.symm, rfl⟩⟩
  · rintro ⟨t, ht, e, arrived, _⟩
    exact ⟨t, ht, _, arrived⟩

/-- **Saves before the first load.**  A save is handed out although no load was
applied before it, just if a key asks for it, there is an API key, no save is in
flight, and the latest load has failed.  It posts the working copy, which is
empty but for what was typed. -/
theorem Run.posts_unloaded_iff {o : Origin} {older : List Transition} {t : Transition} {w : World}
    (run : Run o (t :: older) w) (unloaded : ¬ Loaded older) (urls : Urls) :
    (.saveSettings urls ∈ t.jobs ↔
        t.AsksToSave ∧ o.hasKey = true ∧ t.source.console.form.saving = false ∧
          (∃ u ∈ older, ∃ e, u.Takes t.source.console.form.latestLoad (.error e) (.failed e)) ∧
            urls = t.source.console.form.urls) ∧
      ∀ f, (∀ u ∈ older, ¬ u.Edits f) → t.source.text f = "" := by
  cases run with
  | start =>
      have unasked : ¬ Transition.AsksToSave ⟨o.world, .start, o.world.start⟩ := by
        rintro ⟨_, _, other, _⟩
        cases other
      refine ⟨?_, fun f _ => by cases f <;> rfl⟩
      constructor
      · intro posted
        have asked := ((Step.start (w := o.world)).saves_iff urls).1 posted
        exact absurd asked.1 unasked
      · intro asked
        exact absurd asked.1 unasked
  | @step _ w _ move before taken _ =>
      refine ⟨?_, fun f unedited => before.text_unloaded unloaded unedited⟩
      have hasKey : w.desk.hasKey = o.hasKey := before.hasKey
      show .saveSettings urls ∈ move.jobs w ↔ _
      rw [taken.saves_iff urls, hasKey]
      refine and_congr_right fun _ => and_congr_right fun key => and_congr_right fun _ =>
        and_congr_left fun _ => ?_
      rw [before.loading_eq_false_iff key, before.answered_unloaded unloaded]
      rfl

namespace Origin

/-- The sample when its first load has ended in a failure. -/
def sampleRefused : World :=
  { sample.world.start with
    work := {.new (.fetchStatus 1)}
    mailbox := {.settings 1 (.error .keyMissing)} }

/-- The sample when it knows of this failure. -/
def sampleFailed : World :=
  { sampleRefused with mailbox := 0 }.handle (.settingsLoaded 1 (.error .keyMissing))

/-- What happened until the failure was known. -/
def failedHistory : List Transition :=
  [⟨sampleRefused, .deliver (.settings 1 (.error .keyMissing)), sampleFailed⟩,
    ⟨sample.world.start, .finish (.settings 1 (.error .keyMissing)), sampleRefused⟩,
    ⟨sample.world, .start, sample.world.start⟩]

end Origin

/-- The first load of the sample may fail. -/
theorem Run.sampleFailed : Run .sample Origin.failedHistory Origin.sampleFailed := by
  have started : Run .sample _ Origin.sample.world.start := .start
  have refused := started.step (@Step.finish _ (.new (.fetchSettings 1)) {.new (.fetchStatus 1)}
    ⟨none, .error .keyMissing, fun _ => .ok ()⟩ (.settings 1 (.error .keyMissing)) (by decide)
    nofun rfl) nofun
  exact refused.step (@Step.deliver _ (.settings 1 (.error .keyMissing)) 0 rfl) nofun

/-- The URLs that were typed after the first load failed are posted. -/
theorem posts_typed_urls : ∃ t older w, Run .sample (t :: older) w ∧ ¬ Loaded older ∧
    .saveSettings ⟨"x", "", ""⟩ ∈ t.jobs := by
  have run := Run.sampleFailed.step (.key .enter .none) nofun
  have run := run.step (.key (.char 'x') .none) nofun
  have run := run.step (.key (.char 's') .onlyControl) nofun
  have failed {newest newer failed : Transition} {older : List Transition} :
      failed ∈ newest :: newer :: failed :: older :=
    List.mem_cons_of_mem _ (List.mem_cons_of_mem _ List.mem_cons_self)
  refine ⟨_, _, _, run, ?unloaded, (run.posts_unloaded_iff ?unloaded _).1.2
    ⟨⟨_, _, rfl, rfl, rfl⟩, rfl, rfl, ⟨_, failed, .keyMissing, rfl, rfl⟩, ?typed⟩⟩
  case unloaded =>
    rintro ⟨t, ht, generation, e, arrived, _⟩
    simp only [Origin.failedHistory, List.mem_cons, List.not_mem_nil, or_false] at ht
    rcases ht with rfl | rfl | rfl | rfl | rfl
    all_goals cases arrived
  case typed => decide +kernel

/-- **A save can wipe out what the server has stored.**  The first load fails, a
key asks for a save, and empty URLs are posted. -/
theorem posts_empty_urls : ∃ t older w, Run .sample (t :: older) w ∧ ¬ Loaded older ∧
    .saveSettings Urls.empty ∈ t.jobs ∧ w.server.resolve ≠ Urls.empty := by
  have run := Run.sampleFailed.step (.key (.char 's') .none) nofun
  refine ⟨_, _, _, run, ?_, ?_, ?_⟩
  · rintro ⟨t, ht, generation, e, arrived, _⟩
    simp only [Origin.failedHistory, List.mem_cons, List.not_mem_nil, or_false] at ht
    rcases ht with rfl | rfl | rfl
    all_goals cases arrived
  · decide +kernel
  · decide +kernel

end Dashboard
