import Dashboard.Proofs.Reports

/-!
# Setbacks

An answer may come too late, a load or a save may fail, and a save may be refused
because there is no key or because something is in flight.  None of this may cost
what was typed.  An answer that comes too late leaves no trace at all.  A failure
clears the flag of its request and is told in one toast, and a refused save does not
even get as far as a flag.

## Main definitions

* `Console.HeldBack` — nothing can be saved.
* `Console.Setback` — the events that bring nothing.
* `Console.Endured` — one setback after another.
* `Console.kept` — all that a setback cannot touch.

## Main results

* `Console.setbacks_leave_intact` — what is left after each kind of setback, exactly.
* `Console.Setback.jobs` — nothing is asked of the backend because of them.
* `Console.Endured.intact` — what is left after any number of them.
-/

namespace Dashboard

open Webhook (Envelope Form Urls)

/-- A form that holds a save back is left as it is. -/
theorem Webhook.Form.beginSave_of_heldBack {f : Form} {hasKey : Bool}
    (held : hasKey = false ∨ f.saving = true ∨ f.loading = true) :
    (f.beginSave hasKey).2 = f ∧ (f.beginSave hasKey).1.jobs = [] := by
  obtain ⟨-, key, idle, loaded⟩ | refused := f.beginSave_cases hasKey
  · simp [key, idle, loaded] at held
  · exact refused

namespace Console

/-- Nothing can be saved: there is no key, or a save or a load is in flight. -/
def HeldBack (c : Console) : Prop :=
  c.hasKey = false ∨ c.form.saving = true ∨ c.form.loading = true

/-! ## One setback -/

theorem Superseded.fetched {c : Console} {answer : Answer}
    (superseded : c.Superseded answer.request) : answer.Fetched := by
  intro save
  rw [save] at superseded
  exact superseded

/-- A failed load clears its flag. -/
theorem update_unloaded (c : Console) (now : Nat) (e : ApiError) :
    (c.update now (.settingsLoaded c.form.latestLoad (.error e))).state =
      { c with
        form := { c.form with loading := false }
        toasts := c.toasts ++ [News.unloaded.toast now] } :=
  c.takeSettings_error now e

theorem jobs_of_unloaded (c : Console) (now : Nat) (e : ApiError) :
    (c.update now (.settingsLoaded c.form.latestLoad (.error e))).value = [] := by
  have fetched : (Answer.settings c.form.latestLoad (.error e)).Fetched := nofun
  exact jobs_of_fetched now fetched

/-- A failed save clears its flag, without a load after it. -/
theorem update_unsaved (c : Console) (now : Nat) (e : ApiError) :
    (c.update now (.settingsSaved (.error e))).state =
      { c with
        form := { c.form with saving := false }
        toasts := c.toasts ++ [News.unsaved.toast now] } := rfl

theorem jobs_of_unsaved (c : Console) (now : Nat) (e : ApiError) :
    (c.update now (.settingsSaved (.error e))).value = [] := rfl

section Refused

variable {c : Console} {k : Key} {modifiers : Modifiers}

/-- A refused save does not touch the form.  The editing has ended all the same. -/
theorem update_refused (now : Nat) (asks : c.mode.AsksToSave k modifiers) (held : c.HeldBack) :
    (c.update now (.key k modifiers)).state =
      { c with
        mode := .viewing
        toasts :=
          if c.hasKey = false then c.toasts ++ [News.refused.toast now] else c.toasts } := by
  obtain ⟨toasts, saved⟩ := c.stopEditing.saveSettings_state now
  have told := c.stopEditing.saveSettings_toasts now
  have same : (c.form.beginSave c.hasKey).2 = c.form := (Form.beginSave_of_heldBack held).1
  rw [saved] at told
  rw [update_of_asksToSave now asks, saved]
  show ({ c with mode := .viewing, form := (c.form.beginSave c.hasKey).2, toasts := toasts } :
    Console) = _
  rw [same, show toasts = _ from told]
  rfl

theorem jobs_of_refused (now : Nat) (asks : c.mode.AsksToSave k modifiers) (held : c.HeldBack) :
    (c.update now (.key k modifiers)).value = [] := by
  rw [jobs_of_asksToSave now asks]
  exact (Form.beginSave_of_heldBack held).2

end Refused

/-- **Failures leave the console intact.**  An answer that comes too late changes
nothing.  A load or a save that fails clears its own flag and tells one error.  A save
that is refused ends the editing and leaves the form as it is.  No job is handed out
for any of them. -/
theorem setbacks_leave_intact (c : Console) (now : Nat) :
    (∀ generation result, generation ≠ c.form.latestLoad →
      (c.update now (.settingsLoaded generation result)).state = c ∧
        (c.update now (.settingsLoaded generation result)).value = []) ∧
    (∀ generation result, generation ≠ c.cache.generation →
      (c.update now (.statusLoaded generation result)).state = c ∧
        (c.update now (.statusLoaded generation result)).value = []) ∧
    (∀ e, (c.update now (.settingsLoaded c.form.latestLoad (.error e))).state =
        { c with
          form := { c.form with loading := false }
          toasts := c.toasts ++ [⟨.error, "Failed to load webhook settings", now⟩] } ∧
      (c.update now (.settingsLoaded c.form.latestLoad (.error e))).value = []) ∧
    (∀ e, (c.update now (.settingsSaved (.error e))).state =
        { c with
          form := { c.form with saving := false }
          toasts := c.toasts ++ [⟨.error, "Failed to save webhook settings", now⟩] } ∧
      (c.update now (.settingsSaved (.error e))).value = []) ∧
    (∀ k modifiers, c.mode.AsksToSave k modifiers → c.HeldBack →
      (∃ toasts, (c.update now (.key k modifiers)).state =
        { c with mode := .viewing, toasts := toasts }) ∧
      (c.update now (.key k modifiers)).value = []) := by
  refine ⟨fun generation result stale => ?_, fun generation result stale => ?_, fun e => ?_,
    fun e => ?_, fun k modifiers asks held => ?_⟩
  · have superseded : c.Superseded (Answer.settings generation result).request := stale
    exact ⟨update_superseded now superseded, jobs_of_fetched now superseded.fetched⟩
  · have superseded : c.Superseded (Answer.status generation result).request := stale
    exact ⟨update_superseded now superseded, jobs_of_fetched now superseded.fetched⟩
  · exact ⟨c.update_unloaded now e, c.jobs_of_unloaded now e⟩
  · exact ⟨c.update_unsaved now e, c.jobs_of_unsaved now e⟩
  · exact ⟨⟨_, update_refused now asks held⟩, jobs_of_refused now asks held⟩

/-- Somebody types while the second load is out.  The answer to the first one, a wish to
save and the failure of the second load leave what was typed. -/
theorem setbacks_leave_intact_typing :
    let typing : Console :=
      { new ⟨80, 42⟩ true with
        mode := .editing .dailyReport
        form := { Form.new with
          urls := Urls.empty.set .dailyReport "http://d"
          loading := true
          latestLoad := 2 } }
    (typing.update 7 (.settingsLoaded 1 (.ok ⟨none, none⟩))).state = typing ∧
      (typing.update 7 (.key (.char 's') .onlyControl)).state.form = typing.form ∧
      (typing.update 7 (.settingsLoaded 2 (.error .keyMissing))).state.form.urls =
        typing.form.urls := by
  intro typing
  have intact := setbacks_leave_intact typing 7
  have late := (intact.1 1 (.ok ⟨none, none⟩) (by decide)).1
  obtain ⟨_, refused⟩ := (intact.2.2.2.2 (.char 's') .onlyControl ⟨rfl, rfl⟩ (.inr (.inr rfl))).1
  have failed := (intact.2.2.1 .keyMissing).1
  refine ⟨late, ?_, ?_⟩
  · rw [refused]
  · rw [show 2 = typing.form.latestLoad from rfl, failed]

/-! ## One setback after another -/

/-- The events that bring nothing. -/
inductive Setback (c : Console) : Event → Prop
  | late {answer : Answer} : c.Superseded answer.request → Setback c answer.event
  | unloaded (e : ApiError) : Setback c (.settingsLoaded c.form.latestLoad (.error e))
  | unsaved (e : ApiError) : Setback c (.settingsSaved (.error e))
  | refused {k : Key} {modifiers : Modifiers} :
      c.mode.AsksToSave k modifiers → c.HeldBack → Setback c (.key k modifiers)

/-- One setback after another. -/
inductive Endured (c : Console) : Console → Prop
  | none : Endured c c
  | next {d : Console} {event : Event} (now : Nat) :
      Endured c d → d.Setback event → Endured c (d.update now event).state

/-- All that a setback cannot touch, with the toasts, the flags and the mode
forgotten. -/
def kept (c : Console) : Console :=
  { c with
    mode := .viewing
    toasts := []
    form := { c.form with saving := false, loading := false } }

/-- Errors are told behind the toasts that are shown already. -/
def TellsErrors (c d : Console) : Prop :=
  ∃ told : List Toast, d.toasts = c.toasts ++ told ∧ ∀ toast ∈ told, toast.level = .error

theorem TellsErrors.refl (c : Console) : c.TellsErrors c :=
  ⟨[], (List.append_nil _).symm, nofun⟩

theorem TellsErrors.trans {c d e : Console} (first : c.TellsErrors d) (second : d.TellsErrors e) :
    c.TellsErrors e := by
  obtain ⟨told, shown, errors⟩ := first
  obtain ⟨told', shown', errors'⟩ := second
  refine ⟨told ++ told', by rw [shown', shown, List.append_assoc], fun toast mem => ?_⟩
  exact (List.mem_append.1 mem).elim (errors toast) (errors' toast)

variable {c d : Console} {event : Event}

theorem Setback.jobs (setback : c.Setback event) (now : Nat) :
    (c.update now event).value = [] := by
  cases setback with
  | late superseded => exact jobs_of_fetched now superseded.fetched
  | unloaded e => exact c.jobs_of_unloaded now e
  | unsaved e => exact c.jobs_of_unsaved now e
  | refused asks held => exact jobs_of_refused now asks held

theorem Setback.step (setback : c.Setback event) (now : Nat) :
    (c.update now event).state.kept = c.kept ∧ c.TellsErrors (c.update now event).state := by
  have told (news : News) (error : news.level = .error) :
      ∀ toast ∈ [news.toast now], toast.level = .error :=
    fun toast mem => (List.mem_singleton.1 mem) ▸ error
  cases setback with
  | late superseded =>
    rw [update_superseded now superseded]
    exact ⟨rfl, .refl c⟩
  | unloaded e =>
    rw [update_unloaded]
    exact ⟨rfl, _, rfl, told .unloaded rfl⟩
  | unsaved e =>
    rw [update_unsaved]
    exact ⟨rfl, _, rfl, told .unsaved rfl⟩
  | refused asks held =>
    rw [update_refused now asks held]
    refine ⟨rfl, ?_⟩
    by_cases keyless : c.hasKey = false
    · exact ⟨_, if_pos keyless, told .refused rfl⟩
    · exact ⟨[], (if_neg keyless).trans (List.append_nil _).symm, nofun⟩

/-- However many setbacks there are, all is kept, and what is told are errors. -/
theorem Endured.intact (endured : c.Endured d) : d.kept = c.kept ∧ c.TellsErrors d := by
  induction endured with
  | none => exact ⟨rfl, .refl c⟩
  | next now _ setback ih =>
    obtain ⟨kept, tells⟩ := setback.step now
    exact ⟨kept.trans ih.1, ih.2.trans tells⟩

end Console

end Dashboard
