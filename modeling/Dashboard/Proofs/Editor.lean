import Dashboard.Proofs.Answers

/-!
# Who edits, and where the caret stands

The texts of the webhooks are kept in the form and the caret beside it.  A key
changes a text and the caret together.  But a load puts other texts under the
caret, and while viewing the selection moves and the caret stays behind.
`Editor.Placed` holds all the same: who edits, edits the selected webhook, which is
the one that keys write to, and the caret stands inside its text.

## Main definitions

* `Editor`, `Console.editor` — the part of a console that editing is about.
* `Editor.Placed` — what holds whenever somebody edits.
* `Console.Reached` — what can become of a console by any events, in any order
  and at any instants.

## Main results

* `Console.placed_update`, `Console.Reached.placed` — the caret is placed.
* `Run.reached` — the consoles of all runs are reached.
-/

namespace Dashboard

open Webhook (Envelope Field Form Urls)

/-- The part of a console that editing is about. -/
structure Editor where
  mode : Mode
  urls : Urls
  selected : Field
  caret : Nat

def Console.editor (c : Console) : Editor := ⟨c.mode, c.form.urls, c.selected, c.caret⟩

/-- Who edits, edits the selected webhook, and the caret stands inside its text
or at the end of it. -/
def Editor.Placed (e : Editor) : Prop :=
  ∀ f, e.mode = .editing f → f = e.selected ∧ e.caret ≤ (e.urls.get f).toList.length

theorem Editor.Placed.of_viewing {e : Editor} (viewing : e.mode = .viewing) : e.Placed := by
  intro f editing
  rw [viewing] at editing
  cases editing

namespace Console

/-! ## What does not touch the editor -/

@[simp] theorem editor_loadSettings (c : Console) (now : Nat) :
    (c.loadSettings now).state.editor = c.editor := by
  obtain ⟨_, state⟩ := c.loadSettings_state now
  simp only [state, editor, Form.beginLoad_urls]

@[simp] theorem editor_saveSettings (c : Console) (now : Nat) :
    (c.saveSettings now).state.editor = c.editor := by
  obtain ⟨_, state⟩ := c.saveSettings_state now
  simp only [state, editor, Form.beginSave_keeps]

@[simp] theorem editor_refreshAndLoad (c : Console) (now : Nat) :
    (c.refreshAndLoad now).state.editor = c.editor :=
  editor_loadSettings c.refreshStatus.state now

@[simp] theorem editor_takeSaved (c : Console) (now : Nat) (result : Except ApiError Unit) :
    (c.takeSaved now result).state.editor = c.editor := by
  cases result with
  | ok => exact editor_refreshAndLoad _ now
  | error e => rfl

/-! ## Each event places the caret -/

section Placed

variable {c : Console}

private theorem placed_startEditing (placed : c.editor.Placed) : c.startEditing.editor.Placed := by
  unfold startEditing
  split
  · intro f editing
    cases editing
    exact ⟨rfl, le_rfl⟩
  · exact placed

private theorem placed_setCurrentText {text : String} {caret : Nat} (placed : c.editor.Placed)
    (inside : caret ≤ text.toList.length) :
    ({ c.setCurrentText text with caret := caret } : Console).editor.Placed := by
  intro f editing
  obtain ⟨rfl, _⟩ := placed f editing
  refine ⟨rfl, ?_⟩
  show caret ≤ ((c.form.urls.set c.selected text).get c.selected).toList.length
  rwa [Urls.get_set_self]

private theorem placed_erase (placed : c.editor.Placed) : c.erase.editor.Placed := by
  unfold erase
  split
  · next room =>
      have shorter : (Text.eraseAt c.currentText (c.caret - 1)).toList.length =
          c.currentLength - 1 := by
        apply Text.length_eraseAt
        show c.caret - 1 < c.currentLength
        omega
      exact placed_setCurrentText placed (by omega)
  · exact placed

theorem placed_key (now : Nat) (k : Key) (modifiers : Modifiers) (placed : c.editor.Placed) :
    (c.update now (.key k modifiers)).state.editor.Placed := by
  have stroke := c.stroke now k modifiers
  generalize c.update now (.key k modifiers) = reaction at stroke
  cases stroke with
  | ignored | quit _ | refresh _ => exact placed
  | select viewing => exact .of_viewing viewing
  | enter _ => exact placed_startEditing placed
  | save _ _ => rwa [editor_saveSettings]
  | load _ => rwa [editor_loadSettings]
  | leave _ => exact .of_viewing rfl
  | leaveAndSave _ _ =>
      rw [editor_saveSettings]
      exact .of_viewing rfl
  | move _ inside =>
      intro f editing
      obtain ⟨rfl, before⟩ := placed f editing
      exact ⟨rfl, inside.trans (max_le before le_rfl)⟩
  | insert editing _ =>
      have before : c.caret ≤ c.currentText.toList.length := by
        obtain ⟨rfl, before⟩ := placed _ editing
        exact before
      refine placed_setCurrentText placed ?_
      rw [Text.length_insertAt]
      omega
  | erase _ => exact placed_erase placed
  | clear _ _ => exact placed_setCurrentText placed (Nat.zero_le _)

/-- A load puts other texts under the caret, which is brought back into them. -/
theorem placed_takeSettings (now : Nat) (generation : Nat) (result : Except ApiError Envelope)
    (placed : c.editor.Placed) : (c.takeSettings now generation result).state.editor.Placed := by
  obtain ⟨_, settled⟩ | ⟨e, _, _, settled⟩ | ⟨_, _, _, settled⟩ :=
    c.takeSettings_cases now generation result
  · rwa [settled]
  · rw [settled]
    intro f editing
    obtain ⟨rfl, _⟩ := placed f editing
    refine ⟨rfl, ?_⟩
    have mode : c.mode ≠ .viewing := by
      intro viewing
      exact absurd (viewing.symm.trans editing) nofun
    show c.caretIn e.resolve ≤ (e.resolve.get c.selected).toList.length
    rw [caretIn, if_neg mode]
    exact min_le_right _ _
  · rwa [settled]

theorem placed_update (now : Nat) (event : Event) (placed : c.editor.Placed) :
    (c.update now event).state.editor.Placed := by
  cases event with
  | key k modifiers => exact placed_key now k modifiers placed
  | statusLoaded generation result => exact placed
  | settingsLoaded generation result => exact placed_takeSettings now generation result placed
  | settingsSaved result =>
      show (c.takeSaved now result).state.editor.Placed
      rwa [editor_takeSaved]

end Placed

/-! ## Reached consoles -/

/--
What becomes of a console after its start by any events, in any order and at any
instants.  The answers need not belong to jobs that were handed out.
-/
inductive Reached : Console → Prop
  | start (budget : Budget) (hasKey : Bool) (now : Nat) :
      Reached ((new budget hasKey).start now).state
  | update {c : Console} (reached : Reached c) (now : Nat) (event : Event) :
      Reached (c.update now event).state
  | prune {c : Console} (reached : Reached c) (now : Nat) : Reached (c.prune now)

/-- **Whoever edits, edits the selected webhook, with the caret inside its
text.** -/
theorem Reached.placed {c : Console} (reached : c.Reached) : c.editor.Placed := by
  induction reached with
  | start budget hasKey now =>
      show ((new budget hasKey).refreshAndLoad now).state.editor.Placed
      rw [editor_refreshAndLoad]
      exact .of_viewing rfl
  | update _ now event ih => exact placed_update now event ih
  | prune _ _ ih => exact ih

end Console

/-- The consoles of all runs are reached. -/
theorem Run.reached {o : Origin} {history : List Transition} {w : World}
    (run : Run o history w) : w.console.Reached := by
  induction run with
  | start => exact .start o.budget o.hasKey o.now
  | step _ step other ih =>
      cases step with
      | start => exact absurd rfl other
      | key k modifiers => exact ih.update _ _
      | deliver mailbox => exact ih.update _ _
      | wait elapsed => exact ih.prune _
      | read | store | elsewhere | finish | withdraw => exact ih

end Dashboard
