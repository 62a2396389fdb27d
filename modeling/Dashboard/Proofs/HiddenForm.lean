import Dashboard.Proofs.InFlight

/-!
# Editing while the form is hidden

While a load is in flight the form is not shown, and nobody can begin to edit
it.  But who is editing already when a load is issued goes on.  The key that
loads does so only while viewing, so the one load that can come upon an editor
is the one that follows a save.

The console reckons with that: settings that arrive while somebody edits are
applied, and the caret is kept within the new text.

## Main results

* `Run.viewing_or_reloadedDuring` — while the form is loading the console is
  viewing, or it has been editing since before the load was issued, at the news
  of a save.
* `edits_hidden_form` — how this happens, and that keys still type then.
-/

namespace Dashboard

open Webhook (Envelope Field Form Urls)

/-- The load was issued at the news of a save, while this URL was edited, and
the editing has not ended since. -/
def ReloadedDuring (history : List Transition) (f : Field) (generation : Nat) : Prop :=
  ∃ newer t older, history = newer ++ t :: older ∧ t.Saves ∧ .fetchSettings generation ∈ t.jobs ∧
    t.source.console.mode = .editing f ∧ ∀ u ∈ newer, u.target.console.mode = .editing f

/-- An editor of a form that is loading was there before the step, and the form
was loading already unless the news of a save arrived. -/
theorem Effect.editing_loading {d d' : Desk} {move : Move} {jobs : List Job}
    (effect : Effect d move d' jobs) (other : move ≠ .start) {f : Field}
    (editing : d'.mode = .editing f) (loading : d'.form.loading = true) :
    d.mode = .editing f ∧
      (move = .deliver (.saved (.ok ())) ∧ .fetchSettings d'.form.latestLoad ∈ jobs ∨
        d.form.loading = true ∧ d'.form.latestLoad = d.form.latestLoad) := by
  have edited : d.mode = .editing f := by
    rcases effect.editing_cases editing with edited | ⟨shown, same⟩
    · exact edited
    · rw [same, shown] at loading
      cases loading
  refine ⟨edited, ?_⟩
  rcases effect.issued_or_loading loading with issued | before
  · rcases effect.of_fetchSettings issued with start | ⟨viewing, _⟩ | saved
    · exact absurd start other
    · cases viewing.symm.trans edited
    · exact .inl ⟨saved, issued⟩
  · exact .inr before

/-- A load that is in flight while a URL is edited came upon the editor. -/
theorem Run.reloadedDuring {o : Origin} {history : List Transition} {w : World}
    (run : Run o history w) {f : Field} (editing : w.desk.mode = .editing f)
    (loading : w.desk.form.loading = true) : ReloadedDuring history f w.desk.form.latestLoad := by
  induction run with
  | start =>
      have desk : o.world.start.desk = { o.world.desk with form := (Form.new.beginLoad o.hasKey).2 } :=
        Console.refreshAndLoad_desk _ _
      rw [desk] at editing
      cases editing
  | step before taken other ih =>
      obtain ⟨edited, ⟨saved, issued⟩ | ⟨loaded, latest⟩⟩ :=
        taken.effect.editing_loading other editing loading
      · exact ⟨[], _, _, rfl, saved, issued, edited, fun _ hu => absurd hu List.not_mem_nil⟩
      · rw [latest]
        obtain ⟨newer, t, older, split, saved, issued, source, since⟩ := ih edited loaded
        refine ⟨_ :: newer, t, older, congrArg _ split, saved, issued, source, ?_⟩
        intro u hu
        rcases List.mem_cons.1 hu with rfl | hu
        · exact editing
        · exact since u hu

/-- No key changes the working copy while viewing. -/
theorem Step.urls_of_viewing {w w' : World} {k : Key} {modifiers : Modifiers}
    (step : Step w (.key k modifiers) w') (viewing : w.desk.mode = .viewing) :
    w'.desk.form.urls = w.desk.form.urls := by
  apply step.urls_eq
  · intro f edits
    obtain ⟨field, editing⟩ := step.editing_of_edits edits
    cases viewing.symm.trans editing
  · rintro generation e ⟨other, _⟩
    cases other

/-- **While the form is loading it is hidden from new editors.**  The console is
viewing, and then no key changes the working copy, or it has been editing since
before the load was issued at the news of a save. -/
theorem Run.viewing_or_reloadedDuring {o : Origin} {history : List Transition} {w : World}
    (run : Run o history w) (loading : w.console.form.loading = true) :
    (w.console.mode = .viewing ∧ ∀ k modifiers,
        (w.handle (.key k modifiers)).console.form.urls = w.console.form.urls) ∨
      ∃ f, w.console.mode = .editing f ∧ ReloadedDuring history f w.console.form.latestLoad := by
  cases mode : w.console.mode with
  | viewing =>
      refine .inl ⟨rfl, fun k modifiers => ?_⟩
      exact (Step.key k modifiers).urls_of_viewing mode
  | editing f => exact .inr ⟨f, rfl, run.reloadedDuring mode loading⟩

/-- A save is under way when somebody begins to edit, and the load that follows
it comes upon the editor. -/
theorem exists_reload_while_editing : ∃ history w, Run .sample history w ∧
    w.console.form.loading = true ∧ w.console.mode = .editing .contentGenerated ∧
      w.console.form.urls = ⟨"a", "", ""⟩ ∧
        (w.handle (.key (.char 'x') .none)).console.form.urls = ⟨"ax", "", ""⟩ := by
  let stored := Origin.sample.server
  let saved : Urls := ⟨"a", "", ""⟩
  let status : Task := .new (.fetchStatus 1)
  let backend : Backend := ⟨none, .ok stored, fun _ => .ok ()⟩
  have run := Run.sampleLoaded.step (.key (.char 's') .none) nofun
  have run := run.step (.key .enter .none) nofun
  have run := run.step (@Step.store _ saved {status} (by decide)) nofun
  have run := run.step (@Step.finish _ ⟨.saveSettings saved, .stored⟩ {status} backend
    (.saved (.ok ())) rfl (by simp [Task.Allows, backend]) rfl) nofun
  have run := run.step (@Step.deliver _ (.saved (.ok ())) 0 rfl) nofun
  exact ⟨_, _, run, rfl, rfl, by decide +kernel, by decide +kernel⟩

/-- The load that comes upon the editor in that run followed a save. -/
theorem viewing_or_reloadedDuring_sample : ∃ history w, Run .sample history w ∧
    w.console.form.loading = true ∧
      ∃ f, w.console.mode = .editing f ∧ ReloadedDuring history f w.console.form.latestLoad := by
  obtain ⟨history, w, run, loading, editing, _⟩ := exists_reload_while_editing
  refine ⟨history, w, run, loading, (run.viewing_or_reloadedDuring loading).resolve_left ?_⟩
  rw [editing]
  simp

/-- **A form can be edited while it is hidden.**  The console is not viewing
although a load is in flight, and a key changes the working copy. -/
theorem edits_hidden_form : ∃ history w, Run .sample history w ∧
    w.console.form.loading = true ∧ w.console.mode ≠ .viewing ∧
      ∃ k modifiers, (w.handle (.key k modifiers)).console.form.urls ≠ w.console.form.urls := by
  obtain ⟨history, w, run, loading, editing, before, after⟩ := exists_reload_while_editing
  refine ⟨history, w, run, loading, ?_, .char 'x', .none, ?_⟩
  · rw [editing]
    simp
  · rw [before, after]
    decide

end Dashboard
