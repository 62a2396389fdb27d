import Dashboard.Console
import Dashboard.Screen.Line

/-!
# The key bar

The last line of the screen tells which keys do something at the moment.

## Main definitions

* `Hint` — one entry of the bar, with its key and its effect.
* `Console.hints` — the entries that are shown.
* `Console.keyBar` — the line.
-/

namespace Dashboard

open Screen (Line Span Style)
open Webhook (Field)

/-- An entry of the key bar. -/
inductive Hint where
  | selectField
  | edit
  | save
  | refreshStatus
  | reloadWebhooks
  | quit
  /-- Which webhook is being edited. -/
  | editing (field : Field)
  | typeUrl
  | clearUrl
  | saveEdited
  | finishEditing
  deriving DecidableEq

namespace Hint

/-- The key of an entry. -/
def key : Hint → String
  | .selectField => "j/k"
  | .edit => "Enter"
  | .save => "s"
  | .refreshStatus => "r"
  | .reloadWebhooks => "R"
  | .quit => "q"
  | .editing _ => "Editing"
  | .typeUrl => "Type"
  | .clearUrl => "Ctrl+U"
  | .saveEdited => "Ctrl+S"
  | .finishEditing => "Esc"

/-- What an entry promises of its key. -/
def effect : Hint → String
  | .selectField => "Field"
  | .edit => "Edit"
  | .save => "Save"
  | .refreshStatus => "Refresh status"
  | .reloadWebhooks => "Reload webhooks"
  | .quit => "Quit"
  | .editing field => field.label
  | .typeUrl => "Edit URL"
  | .clearUrl => "Clear"
  | .saveEdited => "Save"
  | .finishEditing => "Done"

/-- The spans of an entry. -/
def spans (h : Hint) : List Span :=
  [⟨h.key, .bright .yellow⟩, ⟨" " ++ h.effect, .color .white⟩]

end Hint

namespace Console

/-- The entries of the key bar. -/
def hints (c : Console) : List Hint :=
  match c.mode with
  | .viewing =>
    .selectField ::
      (if c.canEdit then .edit :: (if c.form.saving then [] else [.save]) else []) ++
      [.refreshStatus, .reloadWebhooks, .quit]
  | .editing field => [.editing field, .typeUrl, .clearUrl, .saveEdited, .finishEditing]

/-- The line of the key bar. -/
def keyBar (c : Console) : Line :=
  ⟨" ", .none⟩ :: ((c.hints.map Hint.spans).intersperse [⟨" │ ", .color .darkGray⟩]).flatten

end Console

end Dashboard
