import Dashboard.Console

/-!
# What the console does

The console reacts to events: a key was pressed, or the backend answered. It
changes its state and hands out jobs for the backend; it never waits for
one. The answer to a job comes back as an event.

## Keys

While viewing, a key counts only with exactly the modifiers it is listed
with, unless it is listed with any. While editing, control turns a letter
into a command and all other modifiers are ignored.

## Main definitions

* `Job`, `Event` — what goes to the backend and what comes in.
* `Console.start` — the first jobs.
* `Console.update` — the reaction to an event.
-/

namespace Dashboard

open Webhook (Envelope Form Urls)

/-- Work for the backend. -/
inductive Job where
  /-- Ask for the server status, as the request of this generation. -/
  | fetchStatus (generation : Nat)
  /-- Ask for the stored settings, as the load of this generation. -/
  | fetchSettings (generation : Nat)
  /-- Store these URLs. -/
  | saveSettings (urls : Urls)
  deriving DecidableEq

/-- Something that happens to the console. -/
inductive Event where
  | key (key : Key) (modifiers : Modifiers)
  | statusLoaded (generation : Nat) (result : Except ApiError ServerStatus)
  | settingsLoaded (generation : Nat) (result : Except ApiError Envelope)
  | settingsSaved (result : Except ApiError Unit)

namespace Console

/-- What the console does: its new state, new jobs, and the lines it logs. -/
abbrev Reaction := Outcome Console (List Job)

/-- The new state, without jobs. -/
def quietly (c : Console) : Reaction := .silent c []

/-! ## Handing out jobs -/

/-- The message shown when settings cannot be loaded without a key. -/
def missingKeyWarning : String :=
  "No API key configured. Set SPLANTS_API_KEY to load webhook settings."

/-- Asks for the server status. -/
def refreshStatus (c : Console) : Reaction :=
  .silent { c with cache := c.cache.refresh } [.fetchStatus c.cache.refresh.generation]

/-- Asks for the stored settings, or says that there is no key, the first
time only. -/
def loadSettings (c : Console) (now : Nat) : Reaction :=
  match c.form.beginLoad c.hasKey with
  | (.issue generation, form) => .silent { c with form := form } [.fetchSettings generation]
  | (.missingKey false, form) => quietly { c with form := form }
  | (.missingKey true, form) =>
    ⟨({ c with form := form }).notify now .warning missingKeyWarning, [],
      [⟨.warn, "webhook settings not loaded", [ApiError.keyMissing.errorField]⟩]⟩

/-- Asks for the working copy to be stored. -/
def saveSettings (c : Console) (now : Nat) : Reaction :=
  match c.form.beginSave c.hasKey with
  | (.issue urls, form) =>
    ⟨{ c with form := form }, [.saveSettings urls], [⟨.info, "saving webhook settings", []⟩]⟩
  | (.inFlight, _) => quietly c
  | (.loading, _) =>
    ⟨c, [], [⟨.debug, "save ignored while webhook settings are loading", []⟩]⟩
  | (.missingKey, _) =>
    ⟨c.notify now .error ("Failed to save webhook settings: " ++ ApiError.keyMissing.describe), [],
      [⟨.warn, "webhook settings not saved", [ApiError.keyMissing.errorField]⟩]⟩

/-- One reaction and then another one to the state it leaves. -/
def andThen (first : Reaction) (second : Console → Reaction) : Reaction :=
  let next := second first.state
  ⟨next.state, first.value ++ next.value, first.log ++ next.log⟩

/-- Asks for the status and for the settings, in this order. -/
def refreshAndLoad (c : Console) (now : Nat) : Reaction :=
  andThen c.refreshStatus (·.loadSettings now)

/-- The first jobs of a console. -/
def start (c : Console) (now : Nat) : Reaction := c.refreshAndLoad now

/-! ## Keys -/

/-- The reaction to a key while viewing. -/
def viewingKey (c : Console) (now : Nat) (key : Key) (modifiers : Modifiers) : Reaction :=
  match key with
  | .escape | .char 'q' => quietly { c with quitting := true }
  | .char 'c' =>
    if modifiers = .onlyControl then quietly { c with quitting := true } else quietly c
  | .down | .tab => quietly c.selectNext
  | .char 'j' => if modifiers = .none then quietly c.selectNext else quietly c
  | .up | .backTab => quietly c.selectPrevious
  | .char 'k' => if modifiers = .none then quietly c.selectPrevious else quietly c
  | .enter => quietly c.startEditing
  | .char 'e' => if modifiers = .none then quietly c.startEditing else quietly c
  | .char 's' =>
    if modifiers = .none ∨ modifiers = .onlyControl then c.saveSettings now else quietly c
  | .char 'r' => if modifiers = .none then c.refreshStatus else quietly c
  | .char 'R' => c.loadSettings now
  | _ => quietly c

/-- The reaction to a key while editing. -/
def editingKey (c : Console) (now : Nat) (key : Key) (modifiers : Modifiers) : Reaction :=
  match key with
  | .escape | .enter | .tab => quietly c.stopEditing
  | .backspace => quietly c.erase
  | .left => quietly c.moveLeft
  | .right => quietly c.moveRight
  | .home => quietly c.moveHome
  | .endKey => quietly c.moveEnd
  | .char char =>
    if !modifiers.control then quietly (c.insert char)
    else if char = 's' then c.stopEditing.saveSettings now
    else if char = 'u' then quietly c.clear
    else quietly c
  | _ => quietly c

/-! ## Answers -/

/-- The reaction to an answer about the server status. -/
def takeStatus (c : Console) (generation : Nat) (result : Except ApiError ServerStatus) :
    Reaction :=
  let taken := c.cache.commit generation result
  ⟨{ c with cache := taken.state }, [],
    taken.log ++
      if taken.value then
        [⟨.debug, "public config updated", [("generation", toString generation)]⟩]
      else []⟩

/-- The reaction to an answer with the stored settings. -/
def takeSettings (c : Console) (now : Nat) (generation : Nat)
    (result : Except ApiError Envelope) : Reaction :=
  let taken := c.form.finishLoad generation result
  let next := { c with form := taken.state }
  match taken.value with
  | .stale => ⟨next, [], taken.log⟩
  | .applied =>
    ⟨if next.mode = .viewing then next else next.clampCaret, [],
      [⟨.info, "webhook settings loaded", [("generation", toString generation)]⟩]⟩
  | .failed e =>
    ⟨next.notify now .error "Failed to load webhook settings", [],
      [⟨.error, "failed to load webhook settings", [e.statusField, e.errorField]⟩]⟩

/-- The reaction to the answer to a save. A success is followed by a fresh
status and a fresh load. -/
def takeSaved (c : Console) (now : Nat) (result : Except ApiError Unit) : Reaction :=
  match c.form.finishSave result with
  | (.saved, form) =>
    andThen
      ⟨({ c with form := form }).notify now .success "Webhook settings saved successfully!", [],
        [⟨.info, "webhook settings saved", []⟩]⟩
      (·.refreshAndLoad now)
  | (.failed e, form) =>
    ⟨({ c with form := form }).notify now .error "Failed to save webhook settings", [],
      [⟨.error, "failed to save webhook settings", [e.statusField, e.errorField]⟩]⟩

/-- The reaction to an event. -/
def update (c : Console) (now : Nat) : Event → Reaction
  | .key key modifiers =>
    match c.mode with
    | .viewing => c.viewingKey now key modifiers
    | .editing _ => c.editingKey now key modifiers
  | .statusLoaded generation result => c.takeStatus generation result
  | .settingsLoaded generation result => c.takeSettings now generation result
  | .settingsSaved result => c.takeSaved now result

end Console

end Dashboard
