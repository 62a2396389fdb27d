import Dashboard.Binary64.Places
import Dashboard.Console
import Dashboard.Screen.Line

/-!
# The texts of the screen

What each part of the screen says about the console, line by line. Where the
lines go is decided elsewhere.

## Main definitions

* `Screen.banner`, `Screen.toastLines` — the top of the screen and the toasts.
* `Budget.spentLine`, `Budget.shareLine`, `Budget.adviceLines` — the budget.
* `StatusCache.lines` — the status of the server.
* `Console.formLines` — the webhooks.
-/

namespace Dashboard

open Screen (Color Line Span Style)
open Webhook (Field)

namespace Screen

/-- A line of one span. -/
def Line.single (text : String) (style : Style) : Line := [⟨text, style⟩]

/-- A line without text. -/
def Line.empty : Line := [⟨"", .none⟩]

/-- The two lines at the top: what this is, where the backend is, and what
one does here. -/
def banner (address : String) : List Line :=
  [[⟨"Budget & Settings", .bright .cyan⟩, ⟨" │ ", .color .darkGray⟩, ⟨address, .color .white⟩],
   .single "Monitor costs and manage your configuration" (.color .darkGray)]

/-- The line of a toast. -/
def toastLine (t : Toast) : Line :=
  match t.level with
  | .success => .single (" ✓ " ++ t.message) (.color .green)
  | .warning => .single (" ⚠ " ++ t.message) (.color .yellow)
  | .error => .single (" ✗ " ++ t.message) (.color .red)

/-- The lines of the latest toasts, as many as there is room for. -/
def toastLines (toasts : List Toast) (room : Nat) : List Line :=
  (toasts.drop (toasts.length - room)).map toastLine

/-- The line that stands for an answer that has not come yet. -/
def waitingLine (message : String) : Line :=
  [⟨"⏳ ", .color .yellow⟩, ⟨message, .bright .yellow⟩]

/-- The lines of a panel of which nothing has come yet. -/
def waitingLines (message : String) : List Line := [.empty, waitingLine message]

/-- The lines of a panel whose request failed: what failed, why, and the key
that asks again. -/
def failureLines (what reason key : String) : List Line :=
  [.empty,
   .single ("✗ " ++ what) (.bright .red),
   .single reason (.color .red),
   .empty,
   [⟨"Press ", .color .darkGray⟩, ⟨key, .bright .yellow⟩, ⟨" to retry", .color .darkGray⟩]]

/-- A text with spaces behind it up to a width. -/
def padRight (width : Nat) (text : String) : String :=
  text ++ String.ofList (List.replicate (width - text.length) ' ')

/-- A text with spaces in front of it up to a width. -/
def padLeft (width : Nat) (text : String) : String :=
  String.ofList (List.replicate (width - text.length) ' ') ++ text

end Screen

open Screen

/-! ## The budget -/

/-- The colour of a severity. -/
def Severity.color : Severity → Color
  | .normal => .green
  | .warning => .yellow
  | .critical => .red

/-- The line of an item of the cost breakdown. -/
def CostItem.line (item : CostItem) : Line :=
  [⟨"  " ++ padRight 20 item.name, .color .white⟩,
   ⟨"$" ++ padLeft 3 (toString item.cost), .color .white⟩,
   ⟨"  " ++ padLeft 3 (toString item.percent) ++ "% of total", .color .darkGray⟩]

namespace Budget

/-- What was spent of how much, in whole dollars. -/
def spentLine (b : Budget) : Line :=
  [⟨"$" ++ b.usage.toPlaces 0, .bright .white⟩,
   ⟨" of $" ++ b.monthly.toPlaces 0, .color .darkGray⟩]

/-- The share that was spent and what remains. -/
def shareLine (b : Budget) : Line :=
  [⟨b.usagePercent.toPlaces 1 ++ "% used", .color b.severity.color⟩,
   ⟨" │ ", .color .darkGray⟩,
   ⟨"$" ++ b.remaining.toPlaces 2 ++ " remaining", .color .darkGray⟩]

/-- The alert, while there is one. -/
def alertLines (b : Budget) : List Line :=
  match b.severity.headline?, b.severity.message? with
  | some headline, some message =>
    [.empty,
     .single ("⚠ " ++ headline) (.bright b.severity.color),
     .single message (.color b.severity.color)]
  | _, _ => []

/-- The alert, the cost breakdown and the tips. -/
def adviceLines (b : Budget) : List Line :=
  b.alertLines ++
    [.empty, .single "Cost Breakdown" (.bright .cyan)] ++
    costBreakdown.map CostItem.line ++
    [.empty, .single "Usage Tips" (.bright .cyan)] ++
    usageTips.map fun tip => [⟨"  • ", .color .cyan⟩, ⟨tip, .color .darkGray⟩]

end Budget

/-! ## The status of the server -/

/-- The two lines of a subsystem. -/
def FeatureRow.lines (row : FeatureRow) : List Line :=
  let color := if row.enabled then Color.green else Color.red
  [[⟨if row.enabled then "✓ " else "✗ ", .color color⟩,
    ⟨row.label, .bright .white⟩,
    ⟨if row.enabled then "  enabled" else "  disabled", .color color⟩],
   .single ("  " ++ row.description) (.color .darkGray)]

/-- The alert for missing keys, while there is one. -/
def ServerStatus.alertLines (s : ServerStatus) : List Line :=
  match s.alert? with
  | some alert => [.single ("⚠ " ++ alert) (.bright .yellow), .empty]
  | none => []

namespace StatusCache

/-- What is said while there is no status and no reason why. -/
def placeholder : String := "Loading configuration..."

/-- The status, or the reason why there is none, or that it has not come
yet. -/
def lines (c : StatusCache) : List Line :=
  match c.status, c.problem with
  | some status, _ =>
    status.alertLines ++ status.features.rows.flatMap FeatureRow.lines ++
      (if c.loading then [.empty, waitingLine "Refreshing..."] else [])
  | none, some problem => failureLines "Could not load server configuration" problem "r"
  | none, none => waitingLines placeholder

end StatusCache

/-! ## The webhooks -/

namespace Console

/-- What stands for a URL that is empty. -/
def urlExample : String := "https://hooks.zapier.com/hooks/catch/..."

/-- The line with the name of a webhook, and a pointer if it is selected. -/
def fieldTitle (c : Console) (f : Field) : Line :=
  let selected := c.selected = f
  [⟨if selected then "▶ " else "  ", .color .cyan⟩,
   ⟨f.label, if selected then .bright .cyan else .color .white⟩,
   ⟨"  (" ++ f.hint ++ ")", .color .darkGray⟩]

/-- The line with the URL of a webhook, with the caret in it while it is
edited. -/
def fieldUrl (c : Console) (f : Field) : Line :=
  let url := c.form.urls.get f
  ⟨"  ", .none⟩ ::
    if c.mode = .editing f then
      let (before, after) := Text.splitAt url c.caret
      [⟨before, .color .white⟩, ⟨"│", .color .yellow⟩, ⟨after, .color .white⟩]
    else if url = "" then [⟨urlExample, .color .darkGray⟩]
    else [⟨url, .color .green⟩]

/-- The button that saves, or that a save is in flight. -/
def saveButton (c : Console) : Line :=
  if c.form.saving then .single " Saving... " (.color .darkGray)
  else .single " [s] Save Webhook Settings " ⟨some .black, some .cyan, true⟩

/-- The form with all webhooks, or that they have not come yet. -/
def formLines (c : Console) : List Line :=
  if c.form.loading then waitingLines "Loading webhook settings..."
  else
    (if c.hasKey then []
      else
        [.single "⚠ No API key configured. Set SPLANTS_API_KEY to load and save webhooks."
            (.bright .red),
         .empty]) ++
    Field.all.flatMap (fun f => [c.fieldTitle f, c.fieldUrl f, .empty]) ++
    [c.saveButton,
     .empty,
     .single "Create a webhook trigger in Zapier, Make, or IFTTT, paste its URL above and save."
       (.color .darkGray)]

end Console

end Dashboard
