import Dashboard.Proofs.Keys
import Dashboard.Proofs.World

/-!
# What a step does to the form

An event is handled by one of many branches, but there are few things that it
can do to the form and to the mode.  `Effect` lists them, together with the
jobs that they lead to, and `Step.effect` says that there are no others.  What
is proved about every step goes through this list and looks into no handler.

## The desk

The toasts, the caret, the status and the time have no influence on the form.
`Desk` is what is left of a console without them, and `Effect` is a relation
between desks.  The text that an edit leaves depends on the caret, so on desks
an edit may leave any text.

## Main results

* `Form.value_finishLoad_eq_applied`, `Form.value_finishLoad_eq_failed` — what
  becomes of an answer is known from its generation and its result.
* `Step.effect` — a step has one of the listed effects.
* `Effect.of_fetchSettings`, `Effect.issued_or_loading`, `Effect.editing_cases`
  — how a load comes about, and who is editing.
* `Effect.urls_cases` — the working copy is kept, written to or replaced.
* `Step.text_eq` — a URL changes only by edits of it and by loads.
* `Step.saves_iff` — just when a save is handed out, and what it posts.
-/

namespace Dashboard

open Webhook (Envelope Field Form LoadEnd LoadStart SaveStart Urls)

/-! ## The form -/

/-- The jobs handed out for a wish to load. -/
def Webhook.LoadStart.jobs : LoadStart → List Job
  | .issue generation => [.fetchSettings generation]
  | .missingKey _ => []

/-- The jobs handed out for a wish to save. -/
def Webhook.SaveStart.jobs : SaveStart → List Job
  | .issue urls => [.saveSettings urls]
  | .inFlight | .loading | .missingKey => []

namespace Webhook.Form

/-- An answer is applied just if it is to the latest load and brings settings. -/
theorem value_finishLoad_eq_applied {f : Form} {generation : Nat}
    {result : Except ApiError Envelope} :
    (f.finishLoad generation result).value = .applied ↔
      generation = f.latestLoad ∧ ∃ e, result = .ok e := by
  unfold finishLoad
  split
  · next h => simp [h]
  · next h => cases result <;> simp_all [Outcome.silent]

/-- An answer counts as a failure just if it is to the latest load and brings
an error. -/
theorem value_finishLoad_eq_failed {f : Form} {generation : Nat}
    {result : Except ApiError Envelope} {e : ApiError} :
    (f.finishLoad generation result).value = .failed e ↔
      generation = f.latestLoad ∧ result = .error e := by
  unfold finishLoad
  split
  · next h => simp [h]
  · next h => cases result <;> simp_all [Outcome.silent]

/-- The answer to a load that is not the latest changes nothing. -/
theorem finishLoad_stale {f : Form} {generation : Nat} {result : Except ApiError Envelope}
    (h : generation ≠ f.latestLoad) : (f.finishLoad generation result).state = f := by
  simp [finishLoad, h]

theorem finishLoad_ok (f : Form) (e : Envelope) :
    (f.finishLoad f.latestLoad (.ok e)).state = { f with loading := false, urls := e.resolve } := by
  simp [finishLoad, Outcome.silent]

theorem finishLoad_error (f : Form) (e : ApiError) :
    (f.finishLoad f.latestLoad (.error e)).state = { f with loading := false } := by
  simp [finishLoad, Outcome.silent]

theorem finishLoad_latestLoad (f : Form) (generation : Nat) (result : Except ApiError Envelope) :
    (f.finishLoad generation result).state.latestLoad = f.latestLoad := by
  unfold finishLoad
  split
  · rfl
  · cases result <;> rfl

/-- An answer that is not applied leaves the working copy as it is. -/
theorem finishLoad_urls {f : Form} {generation : Nat} {result : Except ApiError Envelope}
    (h : (f.finishLoad generation result).value ≠ .applied) :
    (f.finishLoad generation result).state.urls = f.urls := by
  by_cases latest : generation = f.latestLoad
  · subst latest
    cases result with
    | ok e => exact absurd (value_finishLoad_eq_applied.2 ⟨rfl, e, rfl⟩) h
    | error e => rw [finishLoad_error]
  · rw [finishLoad_stale latest]

theorem finishLoad_loading (f : Form) (result : Except ApiError Envelope) :
    (f.finishLoad f.latestLoad result).state.loading = false := by
  cases result with
  | ok e => rw [finishLoad_ok]
  | error e => rw [finishLoad_error]

/-- An answer after which the form is still loading was not to the latest load. -/
theorem finishLoad_of_loading {f : Form} {generation : Nat} {result : Except ApiError Envelope}
    (loading : (f.finishLoad generation result).state.loading = true) :
    (f.finishLoad generation result).state = f := by
  by_cases latest : generation = f.latestLoad
  · rw [latest, finishLoad_loading] at loading
    cases loading
  · exact finishLoad_stale latest

theorem beginLoad_urls (f : Form) (hasKey : Bool) : (f.beginLoad hasKey).2.urls = f.urls := by
  cases hasKey <;> rfl

/-- A save is issued, with the working copy, if a key is there and no save and
no load is in flight, and otherwise nothing happens. -/
theorem beginSave_cases (f : Form) (hasKey : Bool) :
    (f.beginSave hasKey = (.issue f.urls, { f with saving := true }) ∧
        hasKey = true ∧ f.saving = false ∧ f.loading = false) ∨
      (f.beginSave hasKey).2 = f ∧ (f.beginSave hasKey).1.jobs = [] := by
  unfold beginSave
  cases hasKey <;> cases hSaving : f.saving <;> cases hLoading : f.loading <;>
    simp [SaveStart.jobs]

/-- A wish to save leaves all but the flag for the save as it is. -/
theorem beginSave_keeps (f : Form) (hasKey : Bool) :
    (f.beginSave hasKey).2.urls = f.urls ∧ (f.beginSave hasKey).2.loading = f.loading ∧
      (f.beginSave hasKey).2.latestLoad = f.latestLoad := by
  obtain ⟨issue, _⟩ | ⟨same, _⟩ := f.beginSave_cases hasKey
  · rw [issue]
    exact ⟨rfl, rfl, rfl⟩
  · rw [same]
    exact ⟨rfl, rfl, rfl⟩

theorem mem_beginSave_jobs {f : Form} {hasKey : Bool} {urls : Urls} :
    .saveSettings urls ∈ (f.beginSave hasKey).1.jobs ↔
      hasKey = true ∧ f.saving = false ∧ f.loading = false ∧ urls = f.urls := by
  unfold beginSave
  cases hasKey <;> cases hSaving : f.saving <;> cases hLoading : f.loading <;>
    simp [SaveStart.jobs]

end Webhook.Form

/-! ## Effects -/

/-- The part of a console that the form depends on. -/
structure Desk where
  mode : Mode
  form : Form
  hasKey : Bool
  selected : Field

def Console.desk (c : Console) : Desk := ⟨c.mode, c.form, c.hasKey, c.selected⟩

def World.desk (w : World) : Desk := w.console.desk

/-- Whether a key that is pressed in this mode asks for a save. -/
def Mode.AsksToSave (mode : Mode) (k : Key) (modifiers : Modifiers) : Prop :=
  k = .char 's' ∧ match mode with
    | .viewing => modifiers = .none ∨ modifiers = .onlyControl
    | .editing _ => modifiers.control = true

instance (mode : Mode) (k : Key) (modifiers : Modifiers) :
    Decidable (mode.AsksToSave k modifiers) :=
  match mode with
  | .viewing => inferInstanceAs (Decidable (_ ∧ (_ ∨ _)))
  | .editing _ => inferInstanceAs (Decidable (_ ∧ _ = true))

/-- Whether a key that is pressed while editing can change the text. -/
def Key.Writes : Key → Modifiers → Prop
  | .backspace, _ => True
  | .char c, modifiers => modifiers.control = false ∨ c = 'u'
  | _, _ => False

/-- Whether the console takes no notice of a move. -/
def Move.Silent : Move → Prop
  | .wait | .serve | .elsewhere | .finish _ | .withdraw _ => True
  | .start | .key _ _ | .deliver _ => False

/--
What a move can do to a desk, and the jobs it can lead to.
-/
inductive Effect (d : Desk) : Move → Desk → List Job → Prop
  /-- The console takes no notice. -/
  | silent {move : Move} (silent : move.Silent) : Effect d move d []
  /-- The console starts with a load. -/
  | start {generation : Nat} :
      Effect d .start { d with form := (d.form.beginLoad d.hasKey).2 }
        (.fetchStatus generation :: (d.form.beginLoad d.hasKey).1.jobs)
  /-- A key that has nothing to do with the form; it may ask for the status. -/
  | steer {k : Key} {modifiers : Modifiers} {jobs : List Job}
      (calm : ∀ job ∈ jobs, ∃ generation, job = .fetchStatus generation) :
      Effect d (.key k modifiers) d jobs
  /-- A key that selects a webhook. -/
  | select {k : Key} {modifiers : Modifiers} {field : Field} (viewing : d.mode = .viewing) :
      Effect d (.key k modifiers) { d with selected := field } []
  /-- A key that begins to edit the selected webhook. -/
  | enter {k : Key} {modifiers : Modifiers}
      (viewing : d.mode = .viewing) (shown : d.form.loading = false) :
      Effect d (.key k modifiers) { d with mode := .editing d.selected } []
  /-- A key that ends the editing. -/
  | leave {k : Key} {modifiers : Modifiers} :
      Effect d (.key k modifiers) { d with mode := .viewing } []
  /-- A key that changes the text of the selected webhook. -/
  | edit {k : Key} {modifiers : Modifiers} {field : Field} {text : String}
      (editing : d.mode = .editing field) (writes : k.Writes modifiers) :
      Effect d (.key k modifiers)
        { d with form := { d.form with urls := d.form.urls.set d.selected text } } []
  /-- The key that loads. -/
  | load {modifiers : Modifiers} (viewing : d.mode = .viewing) :
      Effect d (.key (.char 'R') modifiers) { d with form := (d.form.beginLoad d.hasKey).2 }
        (d.form.beginLoad d.hasKey).1.jobs
  /-- A key that saves, and ends the editing. -/
  | save {k : Key} {modifiers : Modifiers} (asks : d.mode.AsksToSave k modifiers) :
      Effect d (.key k modifiers)
        { d with mode := .viewing, form := (d.form.beginSave d.hasKey).2 }
        (d.form.beginSave d.hasKey).1.jobs
  /-- An answer about the status of the server. -/
  | status {generation : Nat} {result : Except ApiError ServerStatus} :
      Effect d (.deliver (.status generation result)) d []
  /-- An answer to a load. -/
  | loaded {generation : Nat} {result : Except ApiError Envelope} :
      Effect d (.deliver (.settings generation result))
        { d with form := (d.form.finishLoad generation result).state } []
  /-- A save that succeeded, which is followed by a load. -/
  | saved {generation : Nat} :
      Effect d (.deliver (.saved (.ok ())))
        { d with form := ({ d.form with saving := false }.beginLoad d.hasKey).2 }
        (.fetchStatus generation :: ({ d.form with saving := false }.beginLoad d.hasKey).1.jobs)
  /-- A save that failed. -/
  | unsaved {e : ApiError} :
      Effect d (.deliver (.saved (.error e))) { d with form := { d.form with saving := false } } []

namespace Console

/-! ### Handing out jobs -/

/-- A load, issued or refused, concerns the form and the toasts. -/
theorem loadSettings_state (c : Console) (now : Nat) : ∃ toasts, (c.loadSettings now).state =
    { c with form := (c.form.beginLoad c.hasKey).2, toasts := toasts } := by
  unfold loadSettings
  split <;> next h => rw [h]; exact ⟨_, rfl⟩

theorem loadSettings_desk (c : Console) (now : Nat) :
    (c.loadSettings now).state.desk = { c.desk with form := (c.form.beginLoad c.hasKey).2 } := by
  obtain ⟨_, state⟩ := c.loadSettings_state now
  rw [state]
  rfl

theorem loadSettings_jobs (c : Console) (now : Nat) :
    (c.loadSettings now).value = (c.form.beginLoad c.hasKey).1.jobs := by
  unfold loadSettings
  split <;> next h => rw [h]; rfl

/-- A save, issued or refused, concerns the form and the toasts. -/
theorem saveSettings_state (c : Console) (now : Nat) : ∃ toasts, (c.saveSettings now).state =
    { c with form := (c.form.beginSave c.hasKey).2, toasts := toasts } := by
  obtain ⟨issue, _⟩ | ⟨same, none⟩ := c.form.beginSave_cases c.hasKey
  · unfold saveSettings
    rw [issue]
    exact ⟨_, rfl⟩
  · unfold saveSettings
    rw [same]
    split
    · next h =>
        rw [h] at none
        cases none
    all_goals exact ⟨_, rfl⟩

/-- A save that is refused leaves the form as it is. -/
theorem saveSettings_desk (c : Console) (now : Nat) :
    (c.saveSettings now).state.desk = { c.desk with form := (c.form.beginSave c.hasKey).2 } := by
  obtain ⟨_, state⟩ := c.saveSettings_state now
  rw [state]
  rfl

theorem saveSettings_jobs (c : Console) (now : Nat) :
    (c.saveSettings now).value = (c.form.beginSave c.hasKey).1.jobs := by
  unfold saveSettings
  split <;> next h => rw [h]; rfl

/-- Asking for the status does not get in the way of the load. -/
theorem refreshAndLoad_desk (c : Console) (now : Nat) :
    (c.refreshAndLoad now).state.desk = { c.desk with form := (c.form.beginLoad c.hasKey).2 } :=
  loadSettings_desk _ now

theorem refreshAndLoad_jobs (c : Console) (now : Nat) :
    (c.refreshAndLoad now).value =
      .fetchStatus (c.cache.generation + 1) :: (c.form.beginLoad c.hasKey).1.jobs := by
  simp only [refreshAndLoad, andThen, loadSettings_jobs]
  rfl

/-! ### Keys -/

private theorem effect_quiet {d : Desk} {k : Key} {modifiers : Modifiers} :
    Effect d (.key k modifiers) d [] :=
  .steer fun _ hjob => absurd hjob List.not_mem_nil

private theorem effect_startEditing (c : Console) (k : Key) (modifiers : Modifiers)
    (viewing : c.mode = .viewing) :
    Effect c.desk (.key k modifiers) (quietly c.startEditing).state.desk
      (quietly c.startEditing).value := by
  unfold startEditing
  by_cases h : c.canEdit
  · have shown : c.form.loading = false := by simpa [canEdit] using h
    rw [if_pos h]
    exact .enter viewing shown
  · rw [if_neg h]
    exact effect_quiet

theorem stopEditing_of_viewing {c : Console} (viewing : c.mode = .viewing) : c.stopEditing = c := by
  rw [stopEditing, ← viewing]

/-- Nothing that a save depends on changes when the editing ends. -/
private theorem effect_stopAndSave (c : Console) (now : Nat) (k : Key) (modifiers : Modifiers)
    (asks : c.mode.AsksToSave k modifiers) :
    Effect c.desk (.key k modifiers) (c.stopEditing.saveSettings now).state.desk
      (c.stopEditing.saveSettings now).value := by
  rw [saveSettings_jobs, saveSettings_desk]
  exact .save asks

private theorem effect_saveSettings (c : Console) (now : Nat) (k : Key) (modifiers : Modifiers)
    (viewing : c.mode = .viewing) (asks : c.mode.AsksToSave k modifiers) :
    Effect c.desk (.key k modifiers) (c.saveSettings now).state.desk
      (c.saveSettings now).value := by
  have saved := effect_stopAndSave c now k modifiers asks
  rwa [stopEditing_of_viewing viewing] at saved

private theorem effect_erase (c : Console) (modifiers : Modifiers) {field : Field}
    (editing : c.mode = .editing field) :
    Effect c.desk (.key .backspace modifiers) (quietly c.erase).state.desk
      (quietly c.erase).value := by
  unfold erase
  split
  · exact .edit editing trivial
  · exact effect_quiet

theorem effect_key (c : Console) (now : Nat) (k : Key) (modifiers : Modifiers) :
    Effect c.desk (.key k modifiers) (c.update now (.key k modifiers)).state.desk
      (c.update now (.key k modifiers)).value := by
  have stroke := c.stroke now k modifiers
  generalize c.update now (.key k modifiers) = reaction at stroke
  cases stroke with
  | ignored | quit _ | move _ _ => exact effect_quiet
  | select viewing => exact .select viewing
  | enter viewing => exact effect_startEditing c k modifiers viewing
  | save viewing held =>
      exact effect_saveSettings c now _ modifiers viewing ⟨rfl, viewing ▸ held⟩
  | refresh _ => exact .steer fun job hjob => ⟨_, List.mem_singleton.1 hjob⟩
  | load viewing =>
      rw [loadSettings_jobs, loadSettings_desk]
      exact .load viewing
  | leave _ => exact .leave
  | insert editing plain => exact .edit editing (.inl plain)
  | erase editing => exact effect_erase c modifiers editing
  | clear editing _ => exact .edit editing (.inr rfl)
  | leaveAndSave editing held =>
      exact effect_stopAndSave c now _ modifiers ⟨rfl, editing ▸ held⟩

/-! ### Answers -/

private theorem effect_takeSettings (c : Console) (now : Nat) (generation : Nat)
    (result : Except ApiError Envelope) :
    Effect c.desk (.deliver (.settings generation result))
      (c.takeSettings now generation result).state.desk
      (c.takeSettings now generation result).value := by
  unfold takeSettings
  dsimp only
  split
  · exact .loaded
  · dsimp only
    split <;> exact .loaded
  · exact .loaded

private theorem effect_takeSaved (c : Console) (now : Nat) (result : Except ApiError Unit) :
    Effect c.desk (.deliver (.saved result)) (c.takeSaved now result).state.desk
      (c.takeSaved now result).value := by
  cases result with
  | error e => exact .unsaved
  | ok =>
      let told := ({ c with form := { c.form with saving := false } } : Console).notify now
        .success "Webhook settings saved successfully!"
      have desk := refreshAndLoad_desk told now
      have jobs := refreshAndLoad_jobs told now
      exact desk ▸ jobs ▸ .saved

theorem effect_answer (c : Console) (now : Nat) (answer : Answer) :
    Effect c.desk (.deliver answer) (c.update now answer.event).state.desk
      (c.update now answer.event).value := by
  cases answer with
  | status generation result => exact .status
  | settings generation result => exact effect_takeSettings c now generation result
  | saved result => exact effect_takeSaved c now result

end Console

/-- **Every step has a listed effect.** -/
theorem Step.effect {w w' : World} {move : Move} (step : Step w move w') :
    Effect w.desk move w'.desk (move.jobs w) := by
  cases step with
  | start =>
      show Effect w.desk .start (w.console.refreshAndLoad w.now).state.desk
        (w.console.refreshAndLoad w.now).value
      rw [Console.refreshAndLoad_desk, Console.refreshAndLoad_jobs]
      exact .start
  | key k modifiers => exact Console.effect_key w.console w.now k modifiers
  | deliver _ => exact Console.effect_answer w.console w.now _
  | wait | read | store | elsewhere | finish | withdraw => exact .silent trivial

/-! ## Loads and editors -/

/-- Loads are issued at the start, for a key, and at the news of a save. -/
theorem Effect.of_fetchSettings {d d' : Desk} {move : Move} {jobs : List Job}
    (effect : Effect d move d' jobs) {generation : Nat}
    (issued : .fetchSettings generation ∈ jobs) :
    move = .start ∨ (d.mode = .viewing ∧ ∃ modifiers, move = .key (.char 'R') modifiers) ∨
      move = .deliver (.saved (.ok ())) := by
  cases effect with
  | start => exact .inl rfl
  | load viewing => exact .inr (.inl ⟨viewing, _, rfl⟩)
  | saved => exact .inr (.inr rfl)
  | silent _ | select _ | enter _ _ | leave | edit _ _ | status | loaded | unsaved =>
      exact absurd issued List.not_mem_nil
  | steer calm =>
      obtain ⟨_, other⟩ := calm _ issued
      cases other
  | save _ =>
      obtain ⟨issue, _⟩ | ⟨_, none⟩ := d.form.beginSave_cases d.hasKey
      · rw [issue] at issued
        simp [SaveStart.jobs] at issued
      · rw [none] at issued
        exact absurd issued List.not_mem_nil

/-- If the form is loading after a wish to load, a load was issued. -/
theorem Webhook.Form.beginLoad_issued {f : Form} {hasKey : Bool}
    (loading : (f.beginLoad hasKey).2.loading = true) :
    .fetchSettings (f.beginLoad hasKey).2.latestLoad ∈ (f.beginLoad hasKey).1.jobs := by
  cases hasKey with
  | false => cases loading
  | true => exact List.mem_singleton_self _

/-- A form that is loading after a step was loading before it, or the load was
issued in the step. -/
theorem Effect.issued_or_loading {d d' : Desk} {move : Move} {jobs : List Job}
    (effect : Effect d move d' jobs) (loading : d'.form.loading = true) :
    .fetchSettings d'.form.latestLoad ∈ jobs ∨
      d.form.loading = true ∧ d'.form.latestLoad = d.form.latestLoad := by
  cases effect with
  | load _ => exact .inl (Form.beginLoad_issued loading)
  | start | saved => exact .inl (List.mem_cons_of_mem _ (Form.beginLoad_issued loading))
  | silent _ | steer _ | select _ | enter _ _ | leave | edit _ _ | status | unsaved =>
      exact .inr ⟨loading, rfl⟩
  | save _ =>
      obtain ⟨_, flag, latest⟩ := d.form.beginSave_keeps d.hasKey
      exact .inr ⟨flag.symm.trans loading, latest⟩
  | loaded =>
      have same := Form.finishLoad_of_loading loading
      rw [same] at loading ⊢
      exact .inr ⟨loading, rfl⟩

/-- Who edits after a step edited before it, or begins to while no load is in
flight. -/
theorem Effect.editing_cases {d d' : Desk} {move : Move} {jobs : List Job}
    (effect : Effect d move d' jobs) {f : Field} (editing : d'.mode = .editing f) :
    d.mode = .editing f ∨ d.form.loading = false ∧ d'.form = d.form := by
  cases effect with
  | enter _ shown => exact .inr ⟨shown, rfl⟩
  | leave | save _ => cases editing
  | silent _ | start | steer _ | select _ | edit _ _ | load _ | status | loaded | saved
  | unsaved => exact .inl editing

/-! ## The working copy -/

/-- The working copy is kept, or a key writes to the selected webhook, or the
latest load replaces it. -/
theorem Effect.urls_cases {d d' : Desk} {move : Move} {jobs : List Job}
    (effect : Effect d move d' jobs) :
    d'.form.urls = d.form.urls ∨
      (∃ k modifiers f text, move = .key k modifiers ∧ d.mode = .editing f ∧ k.Writes modifiers ∧
        d'.form.urls = d.form.urls.set d.selected text) ∨
      ∃ e, move = .deliver (.settings d.form.latestLoad (.ok e)) ∧ d'.form.urls = e.resolve := by
  cases effect with
  | silent _ | steer _ | select _ | enter _ _ | leave | status | unsaved => exact .inl rfl
  | start | load _ | saved => exact .inl (Form.beginLoad_urls _ _)
  | save _ => exact .inl (d.form.beginSave_keeps d.hasKey).1
  | edit editing writes => exact .inr (.inl ⟨_, _, _, _, rfl, editing, writes, rfl⟩)
  | @loaded generation result =>
      by_cases applied : (d.form.finishLoad generation result).value = .applied
      · obtain ⟨rfl, e, rfl⟩ := Form.value_finishLoad_eq_applied.1 applied
        refine .inr (.inr ⟨e, rfl, ?_⟩)
        show (d.form.finishLoad d.form.latestLoad (.ok e)).state.urls = e.resolve
        rw [Form.finishLoad_ok]
      · exact .inl (Form.finishLoad_urls applied)

/-- **The URL of a webhook changes only by edits of it and by loads that are
applied.** -/
theorem Step.text_eq {w w' : World} {move : Move} (step : Step w move w') {f : Field}
    (unedited : ¬ Transition.Edits ⟨w, move, w'⟩ f)
    (unapplied : ∀ generation e, ¬ Transition.Applies ⟨w, move, w'⟩ generation e) :
    w'.text f = w.text f := by
  obtain kept | ⟨k, modifiers, _, _, rfl, _⟩ | ⟨e, rfl, _⟩ := step.effect.urls_cases
  · exact congrArg (Urls.get · f) kept
  · by_contra changed
    exact unedited ⟨⟨k, modifiers, rfl⟩, changed⟩
  · exact absurd ⟨rfl, Form.value_finishLoad_eq_applied.2 ⟨rfl, e, rfl⟩⟩ (unapplied _ e)

/-- Edits happen only while editing. -/
theorem Step.editing_of_edits {w w' : World} {move : Move} (step : Step w move w') {f : Field}
    (edits : Transition.Edits ⟨w, move, w'⟩ f) : ∃ field, w.desk.mode = .editing field := by
  obtain ⟨⟨k, modifiers, rfl⟩, changed⟩ := edits
  obtain kept | ⟨_, _, field, _, _, editing, _⟩ | ⟨_, other, _⟩ := step.effect.urls_cases
  · exact absurd (congrArg (Urls.get · f) kept) changed
  · exact ⟨field, editing⟩
  · cases other

/-- The working copy changes only by edits and by loads that are applied. -/
theorem Step.urls_eq {w w' : World} {move : Move} (step : Step w move w')
    (unedited : ∀ f, ¬ Transition.Edits ⟨w, move, w'⟩ f)
    (unapplied : ∀ generation e, ¬ Transition.Applies ⟨w, move, w'⟩ generation e) :
    w'.desk.form.urls = w.desk.form.urls :=
  Urls.ext_get fun f => step.text_eq (unedited f) unapplied

theorem Transition.Applies.latest {t : Transition} {generation : Nat} {e : Envelope}
    (applies : t.Applies generation e) : generation = t.source.desk.form.latestLoad :=
  (Form.value_finishLoad_eq_applied.1 applies.2).1

/-- The settings that a load brings are what the console shows after it. -/
theorem Step.urls_applied {w w' : World} {move : Move} (step : Step w move w') {generation : Nat}
    {e : Envelope} (applies : Transition.Applies ⟨w, move, w'⟩ generation e) :
    w'.desk.form.urls = e.resolve := by
  obtain rfl : move = .deliver (.settings generation (.ok e)) := applies.1
  have latest : generation = w.desk.form.latestLoad := applies.latest
  have effect := step.effect
  generalize w'.desk = d' at effect
  generalize Move.jobs w _ = jobs at effect
  cases effect with
  | silent silent => exact silent.elim
  | loaded =>
      show (w.desk.form.finishLoad generation (.ok e)).state.urls = e.resolve
      rw [latest, Form.finishLoad_ok]

/-! ## Saves -/

/-- A key that asks for a save ends the editing, if somebody edits. -/
theorem Console.update_of_asksToSave {c : Console} {k : Key} {modifiers : Modifiers} (now : Nat)
    (asks : c.mode.AsksToSave k modifiers) :
    c.update now (.key k modifiers) = c.stopEditing.saveSettings now := by
  obtain ⟨rfl, held⟩ := asks
  cases hMode : c.mode with
  | viewing =>
      rw [hMode] at held
      rw [stopEditing_of_viewing hMode]
      simp only [update, hMode, viewingKey]
      rw [if_pos held]
  | editing field =>
      rw [hMode] at held
      simp only [update, hMode, editingKey]
      rw [if_neg (by simp [held]), if_pos trivial]

/-- A key that asks for a save leads to one if the form allows it. -/
theorem Console.jobs_of_asksToSave {c : Console} {k : Key} {modifiers : Modifiers} (now : Nat)
    (asks : c.mode.AsksToSave k modifiers) :
    (c.update now (.key k modifiers)).value = (c.form.beginSave c.hasKey).1.jobs := by
  rw [update_of_asksToSave now asks, saveSettings_jobs]
  rfl

/-- Whether a key was pressed that asks for a save. -/
def Transition.AsksToSave (t : Transition) : Prop :=
  ∃ k modifiers, t.move = .key k modifiers ∧ t.source.console.mode.AsksToSave k modifiers

/-- **A save is handed out just if a key asks for it**, there is an API key, and
no save and no load is in flight.  What is posted is the working copy. -/
theorem Step.saves_iff {w w' : World} {move : Move} (step : Step w move w') (urls : Urls) :
    .saveSettings urls ∈ move.jobs w ↔ Transition.AsksToSave ⟨w, move, w'⟩ ∧
      w.desk.hasKey = true ∧ w.desk.form.saving = false ∧ w.desk.form.loading = false ∧
        urls = w.desk.form.urls := by
  constructor
  · intro posted
    have effect := step.effect
    generalize w'.desk = d' at effect
    generalize move.jobs w = jobs at effect posted
    cases effect with
    | silent _ | select _ | enter _ _ | leave | edit _ _ | status | loaded | unsaved =>
        exact absurd posted List.not_mem_nil
    | steer calm =>
        obtain ⟨generation, other⟩ := calm _ posted
        cases other
    | start | load _ | saved =>
        cases hKey : w.desk.hasKey <;> simp [hKey, Form.beginLoad, LoadStart.jobs] at posted
    | @save k modifiers asks =>
        have issued := Form.mem_beginSave_jobs.1 posted
        exact ⟨⟨k, modifiers, rfl, asks⟩, issued⟩
  · rintro ⟨⟨k, modifiers, rfl, asks⟩, issued⟩
    show .saveSettings urls ∈ (w.console.update w.now (.key k modifiers)).value
    rw [Console.jobs_of_asksToSave w.now asks]
    exact Form.mem_beginSave_jobs.2 issued

end Dashboard
