import Dashboard.Budget
import Dashboard.Key
import Dashboard.StatusCache
import Dashboard.Text.Caret
import Dashboard.Toast
import Dashboard.Webhook.Form

/-!
# The console

All that the dashboard remembers between two key presses, and the ways in
which a person changes it.

## The caret

While a URL is edited a caret stands in it. It is kept as a number of
characters and belongs to the selected webhook. Moving and erasing keep it
inside the text; only a load can shorten the text under it, and
`Console.clampCaret` brings it back then.

## Main definitions

* `Console`, `Mode` — the state.
* `Console.notify`, `Console.prune` — toasts come and go.
* `Console.startEditing`, `Console.insert`, `Console.erase`, … — the editor.
-/

namespace Dashboard

open Webhook (Field)

/-- Whether keys steer the dashboard or type into the URL of a webhook. -/
inductive Mode where
  | viewing
  | editing (field : Field)
  deriving DecidableEq

/-- All that the dashboard remembers. -/
structure Console where
  mode : Mode
  budget : Budget
  cache : StatusCache
  form : Webhook.Form
  hasKey : Bool
  selected : Field
  caret : Nat
  toasts : List Toast
  quitting : Bool
  deriving DecidableEq

namespace Console

/-- The console when it starts. -/
def new (budget : Budget) (hasKey : Bool) : Console where
  mode := .viewing
  budget := budget
  cache := StatusCache.new
  form := Webhook.Form.new
  hasKey := hasKey
  selected := .contentGenerated
  caret := 0
  toasts := []
  quitting := false

/-! ## Toasts -/

/-- Shows a toast, behind those that are shown already. -/
def notify (c : Console) (now : Nat) (level : ToastLevel) (message : String) : Console :=
  { c with toasts := c.toasts ++ [⟨level, message, now⟩] }

/-- Takes away the toasts whose time is over. -/
def prune (c : Console) (now : Nat) : Console :=
  { c with toasts := c.toasts.filter fun t => !t.isExpired now }

/-! ## Selecting -/

/-- Selects the webhook below. -/
def selectNext (c : Console) : Console := { c with selected := c.selected.next }

/-- Selects the webhook above. -/
def selectPrevious (c : Console) : Console := { c with selected := c.selected.previous }

/-! ## Editing -/

/-- Whether the form is shown and can be edited. -/
def canEdit (c : Console) : Bool := !c.form.loading

/-- The URL of the selected webhook. -/
def currentText (c : Console) : String := c.form.urls.get c.selected

/-- How many characters the URL of the selected webhook has. -/
def currentLength (c : Console) : Nat := c.currentText.toList.length

/-- Another URL for the selected webhook. -/
def setCurrentText (c : Console) (text : String) : Console :=
  { c with form := { c.form with urls := c.form.urls.set c.selected text } }

/-- Begins to edit the selected webhook, with the caret at the end. -/
def startEditing (c : Console) : Console :=
  if c.canEdit then { c with caret := c.currentLength, mode := .editing c.selected } else c

/-- Goes back to viewing. -/
def stopEditing (c : Console) : Console := { c with mode := .viewing }

/-- Types a character at the caret. -/
def insert (c : Console) (char : Char) : Console :=
  { c.setCurrentText (Text.insertAt c.currentText c.caret char) with caret := c.caret + 1 }

/-- Erases the character in front of the caret, if there is one. -/
def erase (c : Console) : Console :=
  if 0 < c.caret ∧ c.caret ≤ c.currentLength then
    { c.setCurrentText (Text.eraseAt c.currentText (c.caret - 1)) with caret := c.caret - 1 }
  else c

/-- Erases the whole URL. -/
def clear (c : Console) : Console := { c.setCurrentText "" with caret := 0 }

/-- Moves the caret in front of the character before it. -/
def moveLeft (c : Console) : Console := { c with caret := c.caret - 1 }

/-- Moves the caret behind the character after it. -/
def moveRight (c : Console) : Console :=
  if c.caret < c.currentLength then { c with caret := c.caret + 1 } else c

/-- Moves the caret in front of the URL. -/
def moveHome (c : Console) : Console := { c with caret := 0 }

/-- Moves the caret behind the URL. -/
def moveEnd (c : Console) : Console := { c with caret := c.currentLength }

/-- Brings the caret back into the URL. -/
def clampCaret (c : Console) : Console := { c with caret := min c.caret c.currentLength }

end Console

end Dashboard
