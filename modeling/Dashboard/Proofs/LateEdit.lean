import Dashboard.Proofs.InFlight

/-!
# Edits during a save

A save posts the working copy as it was when the key was pressed.  Who goes on
typing changes the working copy, but not what is posted, and the load that
follows the save brings back what was posted: the working copy is overwritten
by every load, and nothing remembers which URLs were edited.

Such an edit is safe from everything else.  No load is in flight while somebody
edits during a save, so a load that is applied later was issued later, for the
key that loads or at the news of a save.

## Main results

* `Run.lastEdit_until_reloaded` — how long such an edit is kept, and what
  becomes of it.
* `reload_discards_edit` — an edit that is lost to the load after the save.
-/

namespace Dashboard

open Webhook (Envelope Field Form Urls)

/-- The last edit of this URL left this text. -/
def LastEdit (history : List Transition) (f : Field) (text : String) : Prop :=
  ∃ newer t older, history = newer ++ t :: older ∧ t.Edits f ∧ t.target.text f = text ∧
    ∀ u ∈ newer, ¬ u.Edits f

theorem not_lastEdit_nil (f : Field) (text : String) : ¬ LastEdit [] f text := by
  rintro ⟨newer, t, older, split, _⟩
  simp at split

theorem lastEdit_cons {history : List Transition} {t : Transition} {f : Field} {text : String} :
    LastEdit (t :: history) f text ↔
      t.Edits f ∧ t.target.text f = text ∨ ¬ t.Edits f ∧ LastEdit history f text := by
  constructor
  · rintro ⟨newer, u, older, split, edits, left, unedited⟩
    cases newer with
    | nil =>
        cases split
        exact .inl ⟨edits, left⟩
    | cons _ newer =>
        cases split
        refine .inr ⟨unedited _ List.mem_cons_self, newer, u, older, rfl, edits, left, ?_⟩
        exact fun v hv => unedited v (List.mem_cons_of_mem _ hv)
  · rintro (⟨edits, left⟩ | ⟨other, newer, u, older, split, edits, left, unedited⟩)
    · exact ⟨[], t, history, rfl, edits, left, fun _ hv => absurd hv List.not_mem_nil⟩
    · refine ⟨t :: newer, u, older, congrArg _ split, edits, left, ?_⟩
      intro v hv
      rcases List.mem_cons.1 hv with rfl | hv
      · exact other
      · exact unedited v hv

theorem LastEdit.unique {history : List Transition} {f : Field} {text text' : String}
    (h : LastEdit history f text) (h' : LastEdit history f text') : text = text' := by
  induction history with
  | nil => exact absurd h (not_lastEdit_nil f text)
  | cons t history ih =>
      rcases lastEdit_cons.1 h with ⟨edits, left⟩ | ⟨other, earlier⟩
      · rcases lastEdit_cons.1 h' with ⟨_, left'⟩ | ⟨other, _⟩
        · exact left.symm.trans left'
        · exact absurd edits other
      · rcases lastEdit_cons.1 h' with ⟨edits, _⟩ | ⟨_, earlier'⟩
        · exact absurd edits other
        · exact ih earlier earlier'

/-! ## Nobody edits while a save and a load are in flight -/

/-- A step keeps it so that who waits for a save and for a load is viewing. -/
theorem Effect.viewing_of_waiting {d d' : Desk} {move : Move} {jobs : List Job}
    (effect : Effect d move d' jobs) (other : move ≠ .start)
    (before : d.form.saving = true → d.form.loading = true → d.mode = .viewing)
    (saving : d'.form.saving = true) (loading : d'.form.loading = true) : d'.mode = .viewing := by
  cases effect with
  | start => exact absurd rfl other
  | silent _ | steer _ | edit _ _ | status => exact before saving loading
  | select viewing | load viewing => exact viewing
  | enter _ shown => cases shown.symm.trans loading
  | leave | save _ => rfl
  | loaded =>
      have same := Form.finishLoad_of_loading loading
      rw [same] at saving loading
      exact before saving loading
  | saved =>
      cases hKey : d.hasKey <;> rw [hKey] at saving <;> cases saving
  | unsaved => cases saving

/-- Who waits for a save and for a load is viewing. -/
theorem Run.viewing_of_waiting {o : Origin} {history : List Transition} {w : World}
    (run : Run o history w) :
    w.desk.form.saving = true → w.desk.form.loading = true → w.desk.mode = .viewing := by
  induction run with
  | start =>
      intro _ _
      exact congrArg Desk.mode (Console.refreshAndLoad_desk _ _)
  | step _ taken other ih => exact taken.effect.viewing_of_waiting other ih

/-- After an edit during a save no load is in flight that could be applied. -/
theorem Run.loading_of_edits {o : Origin} {older : List Transition} {t : Transition}
    {w : World} (run : Run o (t :: older) w) {f : Field} (edits : t.Edits f)
    (saving : .save ∈ t.source.inFlight) : t.target.desk.form.loading = false := by
  cases run with
  | start =>
      obtain ⟨⟨_, _, other⟩, _⟩ := edits
      cases other
  | @step _ w w' move before taken other =>
      obtain ⟨field, editing⟩ := taken.editing_of_edits edits
      have hidden := before.viewing_of_waiting (before.tracked.saving_iff.1 saving)
      rw [← Bool.not_eq_true]
      intro loading
      rcases taken.effect.issued_or_loading loading with issued | ⟨waiting, _⟩
      · obtain ⟨k, modifiers, rfl⟩ := edits.1
        rcases taken.effect.of_fetchSettings issued with start | ⟨viewing, _⟩ | saved
        · cases start
        · cases viewing.symm.trans editing
        · cases saved
      · cases (hidden waiting).symm.trans editing

/-! ## What became of the edit -/

/-- A load that is applied was in flight until then. -/
theorem Run.loading_of_applies {o : Origin} {history : List Transition} {w w' : World}
    {move : Move} (run : Run o history w) (step : Step w move w') {generation : Nat} {e : Envelope}
    (applies : Transition.Applies ⟨w, move, w'⟩ generation e) : w.desk.form.loading = true := by
  obtain rfl : generation = w.desk.form.latestLoad := applies.latest
  obtain rfl := applies.1
  exact run.tracked.loading_iff.1 (World.request_mem_of_mailbox step.waiting_of_deliver)

/-- Loads that are applied after an edit during a save were issued after it. -/
theorem Run.issued_since {o : Origin} {newer older : List Transition} {t : Transition} {w : World}
    (run : Run o (newer ++ t :: older) w) (settled : t.target.desk.form.loading = false) :
    (w.desk.form.loading = true → ∃ v ∈ newer, .fetchSettings w.desk.form.latestLoad ∈ v.jobs) ∧
      ∀ s ∈ newer, ∀ generation e, s.Applies generation e →
        ∃ v ∈ newer, .fetchSettings generation ∈ v.jobs := by
  refine Run.since (P := fun newer w =>
    (w.desk.form.loading = true → ∃ v ∈ newer, .fetchSettings w.desk.form.latestLoad ∈ v.jobs) ∧
      ∀ s ∈ newer, ∀ generation e, s.Applies generation e →
        ∃ v ∈ newer, .fetchSettings generation ∈ v.jobs) ?_ ?_ run
  · refine ⟨fun loading => ?_, fun _ hs => absurd hs List.not_mem_nil⟩
    cases settled.symm.trans loading
  · rintro newer w w' move before ⟨waiting, applied⟩ step other
    constructor
    · intro loading
      rcases step.effect.issued_or_loading loading with issued | ⟨loading, same⟩
      · exact ⟨_, List.mem_cons_self, issued⟩
      · obtain ⟨v, hv, issued⟩ := waiting loading
        exact ⟨v, List.mem_cons_of_mem _ hv, same ▸ issued⟩
    · intro s hs generation e applies
      have earlier : ∃ v ∈ newer, .fetchSettings generation ∈ v.jobs := by
        rcases List.mem_cons.1 hs with rfl | hs
        · rw [applies.latest]
          exact waiting (before.loading_of_applies step applies)
        · exact applied s hs generation e applies
      obtain ⟨v, hv, issued⟩ := earlier
      exact ⟨v, List.mem_cons_of_mem _ hv, issued⟩

/-- An edit is kept until a load is applied, and later edits go on from it. -/
theorem Run.lastEdit_of_unapplied {o : Origin} {newer older : List Transition} {t : Transition}
    {w : World} (run : Run o (newer ++ t :: older) w) {f : Field} (edits : t.Edits f)
    (unapplied : ∀ s ∈ newer, ∀ generation e, ¬ s.Applies generation e) :
    LastEdit (newer ++ t :: older) f (w.text f) := by
  refine Run.since (P := fun newer w =>
    (∀ s ∈ newer, ∀ generation e, ¬ s.Applies generation e) →
      LastEdit (newer ++ t :: older) f (w.text f)) ?_ ?_ run unapplied
  · intro _
    exact ⟨[], t, older, rfl, edits, rfl, fun _ hu => absurd hu List.not_mem_nil⟩
  · intro newer w w' move before ih step _ unapplied
    by_cases now : Transition.Edits ⟨w, move, w'⟩ f
    · exact lastEdit_cons.2 (.inl ⟨now, rfl⟩)
    · have kept : w'.text f = w.text f := step.text_eq now (unapplied _ List.mem_cons_self)
      rw [kept]
      exact lastEdit_cons.2 (.inr ⟨now, ih fun s hs => unapplied s (List.mem_cons_of_mem _ hs)⟩)

/-- **An edit during a save is kept until the load after the save.**  If the key
that loads was not pressed since the edit, the URL has the text that the last
edit left as long as no load is applied.  The only loads that can be applied
were issued at the news of a save after the edit, and they leave the URL that
they brought. -/
theorem Run.lastEdit_until_reloaded {o : Origin} {newer older : List Transition} {t : Transition}
    {w : World} (run : Run o (newer ++ t :: older) w) {f : Field} (edits : t.Edits f)
    (saving : .save ∈ t.source.inFlight) (unasked : ∀ u ∈ newer, ¬ u.Reloads) :
    ((∀ s ∈ newer, ∀ generation e, ¬ s.Applies generation e) →
        LastEdit (newer ++ t :: older) f (w.text f)) ∧
      ∀ s ∈ newer, ∀ generation e, s.Applies generation e → s.target.text f = e.resolve.get f ∧
        ∃ v ∈ newer, v.Saves ∧ .fetchSettings generation ∈ v.jobs := by
  refine ⟨run.lastEdit_of_unapplied edits, fun s hs generation e applies => ?_⟩
  have settled := run.of_append.loading_of_edits edits saving
  obtain ⟨v, hv, issued⟩ := (run.issued_since settled).2 s hs generation e applies
  have taken := run.steps_since
  constructor
  · exact congrArg (Urls.get · f) ((taken s hs).1.urls_applied applies)
  · refine ⟨v, hv, ?_, issued⟩
    rcases (taken v hv).1.effect.of_fetchSettings issued with start | ⟨viewing, pressed⟩ | saved
    · exact absurd start (taken v hv).2
    · exact absurd ⟨viewing, pressed⟩ (unasked v hv)
    · exact saved

/-- A URL is edited during a save, the save succeeds, and the load after it is
applied. -/
theorem exists_reload_after_edit : ∃ newer t older w, Run .sample (newer ++ t :: older) w ∧
    t.Edits .contentGenerated ∧ .save ∈ t.source.inFlight ∧
    (∀ u ∈ newer, ¬ u.Reloads ∧ ¬ u.Edits .contentGenerated) ∧
    (∃ s ∈ newer, s.Applies 2 (Origin.sample.server.store ⟨"a", "", ""⟩)) ∧
    t.target.text .contentGenerated = "ax" ∧ w.text .contentGenerated = "a" := by
  let stored := Origin.sample.server
  let saved : Urls := ⟨"a", "", ""⟩
  let status : Task := .new (.fetchStatus 1)
  let backend (e : Envelope) : Backend := ⟨none, .ok e, fun _ => .ok ()⟩
  have run := Run.sampleLoaded.step (.key (.char 's') .none) nofun
  have run := run.step (.key .enter .none) nofun
  have run := run.step (.key (.char 'x') .none) nofun
  have run := run.step (@Step.store _ saved {status} (by decide)) nofun
  have run := run.step (@Step.finish _ ⟨.saveSettings saved, .stored⟩ {status} (backend stored)
    (.saved (.ok ())) rfl (by simp [Task.Allows, backend]) rfl) nofun
  have run := run.step (@Step.deliver _ (.saved (.ok ())) 0 rfl) nofun
  have run := run.step (@Step.read _ 2 {status, .new (.fetchStatus 2)} (by decide)) nofun
  have run := run.step (@Step.finish _ ⟨.fetchSettings 2, .read (stored.store saved)⟩
    {status, .new (.fetchStatus 2)} (backend (stored.store saved))
    (.settings 2 (.ok (stored.store saved))) rfl (fun e same => by cases same; rfl) rfl) nofun
  have run := run.step (@Step.deliver _ (.settings 2 (.ok (stored.store saved))) 0 rfl) nofun
  refine ⟨[_, _, _, _, _, _], _, _, _, run, ⟨⟨_, _, rfl⟩, ?_⟩, ?_, ?_,
    ⟨_, List.mem_cons_self, rfl, rfl⟩, ?_, ?_⟩
  · decide +kernel
  · decide +kernel
  · intro u hu
    simp only [List.mem_cons, List.not_mem_nil, or_false] at hu
    constructor
    · rintro ⟨_, _, pressed⟩
      rcases hu with rfl | rfl | rfl | rfl | rfl | rfl
      all_goals cases pressed
    · rintro ⟨⟨_, _, pressed⟩, _⟩
      rcases hu with rfl | rfl | rfl | rfl | rfl | rfl
      all_goals cases pressed
  · decide +kernel
  · decide +kernel

/-- The load in that run was issued at the news of the save. -/
theorem lastEdit_until_reloaded_sample : ∃ newer t older w, Run .sample (newer ++ t :: older) w ∧
    t.Edits .contentGenerated ∧ .save ∈ t.source.inFlight ∧ (∀ u ∈ newer, ¬ u.Reloads) ∧
    ∃ v ∈ newer, v.Saves ∧ .fetchSettings 2 ∈ v.jobs := by
  obtain ⟨newer, t, older, w, run, edits, saving, calm, ⟨s, hs, applies⟩, _⟩ :=
    exists_reload_after_edit
  have kept := run.lastEdit_until_reloaded edits saving fun u hu => (calm u hu).1
  exact ⟨newer, t, older, w, run, edits, saving, fun u hu => (calm u hu).1,
    (kept.2 s hs 2 _ applies).2⟩

/-- **An edit during a save can be lost.**  The key that loads was not pressed,
and yet the URL does not have the text that the last edit left. -/
theorem reload_discards_edit : ∃ newer t older w, Run .sample (newer ++ t :: older) w ∧
    t.Edits .contentGenerated ∧ .save ∈ t.source.inFlight ∧ (∀ u ∈ newer, ¬ u.Reloads) ∧
    (∃ s ∈ newer, ∃ generation e, s.Applies generation e) ∧
    ¬ LastEdit (newer ++ t :: older) .contentGenerated (w.text .contentGenerated) := by
  obtain ⟨newer, t, older, w, run, edits, saving, calm, ⟨s, hs, applies⟩, typed, shown⟩ :=
    exists_reload_after_edit
  refine ⟨newer, t, older, w, run, edits, saving, fun u hu => (calm u hu).1,
    ⟨s, hs, 2, _, applies⟩, fun last => ?_⟩
  have left : LastEdit (newer ++ t :: older) .contentGenerated "ax" :=
    ⟨newer, t, older, rfl, edits, typed, fun u hu => (calm u hu).2⟩
  have same := left.unique last
  rw [shown] at same
  exact absurd same (by decide)

end Dashboard
