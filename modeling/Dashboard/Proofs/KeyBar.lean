import Dashboard.Proofs.HiddenForm
import Dashboard.Proofs.Keyless
import Dashboard.Proofs.Setbacks
import Dashboard.Screen.KeyBar

/-!
# What the key bar promises

While viewing, the bar looks at the flags of the form before it offers to edit or to
save, and what it offers is what the keys do.  While editing it offers to save at all
times.  But somebody may begin to edit while a save is in flight, and the load after
it may come upon the editor.  The key is of no use then: it ends the editing, hands
out nothing and tells nothing.

## Main definitions

* `Console.OffersSave` — the bar has an entry for saving.
* `Console.Ignores` — a key that asks for a save is ignored.
* `SaveBlocked` — what an editor cannot know: a request is in the way.

## Main results

* `Console.ignores_iff` — when a key that asks for a save is ignored.
* `Run.keyBar_promises` — what becomes of the keys that the bar offers.
* `ignores_offered_save` — a key is offered and ignored.
-/

namespace Dashboard

open Webhook (Field Form Urls)

namespace Console

/-! ## What is offered -/

/-- The bar offers a key that saves. -/
def OffersSave (c : Console) : Prop := .save ∈ c.hints ∨ .saveEdited ∈ c.hints

variable {c : Console}

theorem edit_mem_hints : .edit ∈ c.hints ↔ c.mode = .viewing ∧ c.form.loading = false := by
  unfold hints canEdit
  cases c.mode <;> cases c.form.loading <;> cases c.form.saving <;> simp

/-- While viewing the bar looks at the flags, while editing it does not. -/
theorem offersSave_iff :
    c.OffersSave ↔ (c.mode = .viewing → c.form.loading = false ∧ c.form.saving = false) := by
  unfold OffersSave hints canEdit
  cases c.mode <;> cases c.form.loading <;> cases c.form.saving <;> simp

/-! ## What the keys do -/

theorem update_enter (viewing : c.mode = .viewing) (now : Nat) (modifiers : Modifiers) :
    c.update now (.key .enter modifiers) = quietly c.startEditing := by
  simp only [update, viewing, viewingKey]

theorem startEditing_of_shown (shown : c.form.loading = false) :
    c.startEditing = { c with caret := c.currentLength, mode := .editing c.selected } := by
  simp [startEditing, canEdit, shown]

/-- A key is pressed, and nothing is asked of the backend and nothing is told.  If
somebody edits, the editing ends. -/
def Ignores (c : Console) (now : Nat) (k : Key) (modifiers : Modifiers) : Prop :=
  (c.update now (.key k modifiers)).value = [] ∧
    (c.update now (.key k modifiers)).state = c.stopEditing

section Asked

variable {k : Key} {modifiers : Modifiers}

theorem jobs_of_free (now : Nat) (asks : c.mode.AsksToSave k modifiers) (free : ¬ c.HeldBack) :
    (c.update now (.key k modifiers)).value = [.saveSettings c.form.urls] := by
  obtain ⟨keyed, idle, loaded⟩ :
      c.hasKey = true ∧ c.form.saving = false ∧ c.form.loading = false := by
    simpa [HeldBack] using free
  rw [jobs_of_asksToSave now asks]
  simp [Form.beginSave, keyed, idle, loaded, Webhook.SaveStart.jobs]

/-- Without a key the refusal is told. -/
theorem toasts_of_keyless (now : Nat) (asks : c.mode.AsksToSave k modifiers)
    (keyless : c.hasKey = false) :
    (c.update now (.key k modifiers)).state.toasts = c.toasts ++ [News.refused.toast now] := by
  rw [update_refused now asks (.inl keyless)]
  exact if_pos keyless

/-- **A key that asks for a save is ignored** just if there is an API key, and a save or
a load is in flight. -/
theorem ignores_iff (now : Nat) (asks : c.mode.AsksToSave k modifiers) :
    c.Ignores now k modifiers ↔
      c.hasKey = true ∧ (c.form.saving = true ∨ c.form.loading = true) := by
  constructor
  · rintro ⟨silent, same⟩
    have held : c.HeldBack := by
      by_contra free
      rw [jobs_of_free now asks free] at silent
      cases silent
    have keyed : c.hasKey = true := by
      rw [← Bool.not_eq_false]
      intro keyless
      have told := toasts_of_keyless now asks keyless
      rw [same] at told
      exact absurd told.symm (by simp [stopEditing])
    exact ⟨keyed, held.resolve_left (by simp [keyed])⟩
  · rintro ⟨keyed, busy⟩
    have held : c.HeldBack := .inr busy
    refine ⟨jobs_of_refused now asks held, ?_⟩
    rw [update_refused now asks held, if_neg (by simp [keyed])]
    rfl

end Asked

end Console

/-! ## Runs -/

/-- A URL is edited while a save is in flight, or the load after a save, which came upon
the editor. -/
def SaveBlocked (history : List Transition) (w : World) : Prop :=
  ∃ f, w.console.mode = .editing f ∧
    (.save ∈ w.inFlight ∨ .load w.console.form.latestLoad ∈ w.inFlight ∧
      ReloadedDuring history f w.console.form.latestLoad)

section Runs

variable {o : Origin} {history : List Transition} {w : World}

/-- Where a request is in flight there is a key. -/
theorem Run.hasKey_of_busy (run : Run o history w)
    (busy : w.console.form.saving = true ∨ w.console.form.loading = true) :
    w.console.hasKey = true := by
  rw [← Bool.not_eq_false]
  intro keyless
  have rest := (run.stays_keyless (run.hasKey.symm.trans keyless)).rest
  rcases busy with saving | loading
  · cases rest.saving.symm.trans saving
  · cases rest.loading.symm.trans loading

theorem Run.saveBlocked_iff (run : Run o history w) :
    SaveBlocked history w ↔ w.console.mode ≠ .viewing ∧
      (w.console.form.saving = true ∨ w.console.form.loading = true) := by
  have saving := run.tracked.saving_iff
  have loading := run.tracked.loading_iff
  constructor
  · rintro ⟨f, editing, save | ⟨load, _⟩⟩
    · exact ⟨by simp [editing], .inl (saving.1 save)⟩
    · exact ⟨by simp [editing], .inr (loading.1 load)⟩
  · rintro ⟨other, busy⟩
    cases mode : w.console.mode with
    | viewing => exact absurd mode other
    | editing f =>
        refine ⟨f, mode, busy.imp saving.2 fun flag => ⟨loading.2 flag, ?_⟩⟩
        exact run.reloadedDuring mode flag

/-- **What the key bar promises.**  If it offers to edit, the key for that begins to edit
the selected webhook.  If it offers to save, a key that asks for a save posts the working
copy, or it is told that there is no key.  The one exception is that somebody edits while
a save or the load after it is in flight: just then the key is offered and ignored. -/
theorem Run.keyBar_promises (run : Run o history w) :
    (.edit ∈ w.console.hints → ∀ modifiers,
      (w.console.update w.now (.key .enter modifiers)).state.mode =
        .editing w.console.selected) ∧
    (w.console.OffersSave → ∀ k modifiers, w.console.mode.AsksToSave k modifiers →
      (w.console.hasKey = false →
        (w.console.update w.now (.key k modifiers)).state.toasts =
          w.console.toasts ++ [News.refused.toast w.now]) ∧
      (w.console.hasKey = true → ¬ SaveBlocked history w →
        (w.console.update w.now (.key k modifiers)).value =
          [.saveSettings w.console.form.urls]) ∧
      (w.console.Ignores w.now k modifiers ↔ SaveBlocked history w)) := by
  constructor
  · intro offered modifiers
    obtain ⟨viewing, shown⟩ := Console.edit_mem_hints.1 offered
    rw [Console.update_enter viewing, Console.startEditing_of_shown shown]
    rfl
  intro offered k modifiers asks
  -- While viewing a request in flight is a reason not to offer the key.
  have blocked : SaveBlocked history w ↔
      w.console.form.saving = true ∨ w.console.form.loading = true := by
    rw [run.saveBlocked_iff, and_iff_right_iff_imp]
    intro busy viewing
    obtain ⟨loaded, idle⟩ := Console.offersSave_iff.1 offered viewing
    simp [loaded, idle] at busy
  refine ⟨Console.toasts_of_keyless w.now asks, fun keyed free => ?_, ?_⟩
  · apply Console.jobs_of_free w.now asks
    rintro (keyless | busy)
    · cases keyless.symm.trans keyed
    · exact free (blocked.2 busy)
  · rw [Console.ignores_iff w.now asks, blocked, and_iff_right_iff_imp]
    exact run.hasKey_of_busy

end Runs

/-- The load that followed a save has come upon the editor, and the key that is offered
is ignored. -/
theorem keyBar_promises_reloading : ∃ history w, Run .sample history w ∧
    w.console.OffersSave ∧ SaveBlocked history w ∧
      w.console.Ignores w.now (.char 's') .onlyControl := by
  obtain ⟨history, w, run, loading, editing, _⟩ := exists_reload_while_editing
  have offered : w.console.OffersSave := Console.offersSave_iff.2 (by simp [editing])
  have blocked : SaveBlocked history w := run.saveBlocked_iff.2 ⟨by simp [editing], .inr loading⟩
  have asks : w.console.mode.AsksToSave (.char 's') .onlyControl := by
    rw [editing]
    exact ⟨rfl, rfl⟩
  have kept := run.keyBar_promises.2 offered (.char 's') .onlyControl asks
  exact ⟨history, w, run, offered, blocked, kept.2.2.2 blocked⟩

/-- **The bar offers a key that does nothing.**  There is a key, and somebody edits while
a save is in flight. -/
theorem ignores_offered_save : ∃ history w, Run .sample history w ∧
    w.console.hasKey = true ∧ .saveEdited ∈ w.console.hints ∧
      (w.console.update w.now (.key (.char 's') .onlyControl)).value = [] ∧
      (w.console.update w.now (.key (.char 's') .onlyControl)).state.toasts =
        w.console.toasts := by
  have run := Run.sampleLoaded.step (.key (.char 's') .none) nofun
  have run := run.step (.key .enter .none) nofun
  exact ⟨_, _, run, rfl, by decide +kernel, by decide +kernel, by decide +kernel⟩

end Dashboard
