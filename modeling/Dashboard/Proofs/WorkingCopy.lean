import Dashboard.Proofs.Editor

/-!
# What changes the working copy

The URLs that are shown are what a save posts, so nothing may change them behind
the back of who edits them.  A key writes to the selected webhook, whichever one
is edited; that these are the same is known of reached consoles only.

## Main results

* `Console.key_of_editing` — what keys never do while somebody edits.
* `Console.Reached.urls_change` — it changes by edits and by the latest load, and
  keys that edit do nothing else.
-/

namespace Dashboard

open Webhook (Envelope Field SaveStart Urls)

/-- The move in which an event happens. -/
def Event.move : Event → Move
  | .key k modifiers => .key k modifiers
  | .statusLoaded generation result => .deliver (.status generation result)
  | .settingsLoaded generation result => .deliver (.settings generation result)
  | .settingsSaved result => .deliver (.saved result)

theorem Event.move_injective {a b : Event} (h : a.move = b.move) : a = b := by
  cases a <;> cases b <;> cases h <;> rfl

theorem Console.effect (c : Console) (now : Nat) (event : Event) :
    Effect c.desk event.move (c.update now event).state.desk (c.update now event).value := by
  cases event with
  | key k modifiers => exact effect_key c now k modifiers
  | statusLoaded generation result => exact effect_answer c now (.status generation result)
  | settingsLoaded generation result => exact effect_answer c now (.settings generation result)
  | settingsSaved result => exact effect_answer c now (.saved result)

/-! ## Keys that edit -/

theorem Webhook.SaveStart.mem_jobs {start : SaveStart} {job : Job} (issued : job ∈ start.jobs) :
    ∃ urls, job = .saveSettings urls := by
  cases start with
  | issue urls => exact ⟨urls, List.mem_singleton.1 issued⟩
  | inFlight | loading | missingKey => exact absurd issued List.not_mem_nil

namespace Console

/-- A key that is pressed while editing neither quits nor moves the selection,
and hands out nothing but a save. -/
theorem key_of_editing {c : Console} {f : Field} (editing : c.mode = .editing f) (now : Nat)
    (k : Key) (modifiers : Modifiers) :
    (c.update now (.key k modifiers)).state.quitting = c.quitting ∧
      (c.update now (.key k modifiers)).state.selected = c.selected ∧
      ∀ job ∈ (c.update now (.key k modifiers)).value, ∃ urls, job = .saveSettings urls := by
  have stroke := c.stroke now k modifiers
  generalize c.update now (.key k modifiers) = reaction at stroke
  have calm : ∀ job ∈ ([] : List Job), ∃ urls, job = .saveSettings urls :=
    fun _ none => absurd none List.not_mem_nil
  cases stroke with
  | quit viewing | select viewing | enter viewing | refresh viewing | load viewing
  | save viewing _ => exact absurd (viewing.symm.trans editing) nofun
  | ignored | leave _ | move _ _ | insert _ _ | clear _ _ => exact ⟨rfl, rfl, calm⟩
  | erase _ =>
      unfold erase
      split <;> exact ⟨rfl, rfl, calm⟩
  | leaveAndSave _ _ =>
      obtain ⟨_, state⟩ := c.stopEditing.saveSettings_state now
      rw [saveSettings_jobs, state]
      exact ⟨rfl, rfl, fun _ issued => SaveStart.mem_jobs issued⟩

/-- Whether an event has no business with the working copy: a key while viewing,
an answer about the status, the answer to a save, and the answer to a load that
failed or is not the latest. -/
def Unrelated (c : Console) : Event → Prop
  | .key _ _ => c.mode = .viewing
  | .statusLoaded _ _ | .settingsSaved _ => True
  | .settingsLoaded generation result => generation ≠ c.form.latestLoad ∨ ∃ e, result = .error e

/-- **The working copy changes only by edits of the webhook that is edited, and by
the latest load.**  Events that have no business with it leave every URL as it is,
and a key that is pressed while editing does not quit, moves no selection and
fetches nothing. -/
theorem Reached.urls_change {c : Console} (reached : c.Reached) (now : Nat) (event : Event) :
    ((c.update now event).state.form.urls ≠ c.form.urls →
      (∃ f k modifiers text, c.mode = .editing f ∧ event = .key k modifiers ∧
        k.Writes modifiers ∧ (c.update now event).state.form.urls = c.form.urls.set f text) ∨
      ∃ e, event = .settingsLoaded c.form.latestLoad (.ok e) ∧
        (c.update now event).state.form.urls = e.resolve) ∧
    (c.Unrelated event → (c.update now event).state.form.urls = c.form.urls) ∧
    ∀ f k modifiers, c.mode = .editing f → event = .key k modifiers →
      (c.update now event).state.quitting = c.quitting ∧
        (c.update now event).state.selected = c.selected ∧
        ∀ job ∈ (c.update now event).value, ∃ urls, job = .saveSettings urls := by
  have change := (c.effect now event).urls_cases
  refine ⟨?_, ?_, ?_⟩
  · intro changed
    obtain kept | ⟨k, modifiers, f, text, pressed, editing, writes, written⟩ |
      ⟨e, arrived, replaced⟩ := change
    · exact absurd kept changed
    · obtain rfl : f = c.selected := (reached.placed f editing).1
      exact .inl ⟨_, k, modifiers, text, editing, Event.move_injective pressed, writes, written⟩
    · exact .inr ⟨e, Event.move_injective arrived, replaced⟩
  · intro unrelated
    obtain kept | ⟨k, modifiers, f, _, pressed, editing, _, _⟩ | ⟨e, arrived, _⟩ := change
    · exact kept
    · obtain rfl : event = .key k modifiers := Event.move_injective pressed
      exact absurd (unrelated.symm.trans editing) nofun
    · obtain rfl : event = .settingsLoaded c.form.latestLoad (.ok e) :=
        Event.move_injective arrived
      obtain stale | ⟨_, failed⟩ := unrelated
      · exact absurd rfl stale
      · cases failed
  · rintro f k modifiers editing rfl
    exact key_of_editing editing now k modifiers

/-- A letter is typed while a reload is under way, and then the reload arrives. -/
theorem urls_change_typed : ∃ c : Console, c.Reached ∧ c.form.loading = true ∧
    (∃ f k modifiers text, c.mode = .editing f ∧ Event.key (.char 'é') .none = .key k modifiers ∧
      k.Writes modifiers ∧
      (c.update 0 (.key (.char 'é') .none)).state.form.urls = c.form.urls.set f text) ∧
    ∃ e, Event.settingsLoaded 2 (.ok Origin.sample.server) =
        .settingsLoaded c.form.latestLoad (.ok e) ∧
      (c.update 0 (.settingsLoaded 2 (.ok Origin.sample.server))).state.form.urls = e.resolve := by
  have reached := ((((Reached.start ⟨.nan, .nan⟩ true 0).update 0
    (.settingsLoaded 1 (.ok .empty))).update 0 (.key (.char 's') .none)).update 0
    (.key .enter .none)).update 0 (.settingsSaved (.ok ()))
  have typed := (reached.urls_change 0 (.key (.char 'é') .none)).1 (by decide +kernel)
  have replaced := (reached.urls_change 0 (.settingsLoaded 2 (.ok Origin.sample.server))).1
    (by decide +kernel)
  refine ⟨_, reached, by decide +kernel, ?_, ?_⟩
  · obtain typed | ⟨_, other, _⟩ := typed
    · exact typed
    · cases other
  · obtain ⟨_, _, _, _, _, other, _⟩ | replaced := replaced
    · cases other
    · exact replaced

end Console

end Dashboard
