import Dashboard.Proofs.WorkingCopy
import Dashboard.Proofs.Answers

/-!
# What is told

A toast is all that tells a person what became of a save or a load.  Each outcome
is told once, and what is no outcome is not told: answers that come too late, wishes
to save that are refused because a request is under way, and all that concerns the
status, which has a place of its own on the screen.

That there is no key is told in two ways.  A wish to load tells it once, and the
first such wish is that of the start.  A wish to save tells it each time.

Toasts go away after a while.  `everShown` lists all that were ever shown, whether
they are still there or not.

## Main definitions

* `Moment`, `Life` — what happened to a console.
* `News`, `Moment.news?` — what there was to tell.

## Main results

* `Console.toasts_update` — an event tells its news, and nothing else.
* `Life.everShown_eq` — the toasts of all times.
* `Life.tells` — how many there are of each kind, and what each of them tells.
-/

namespace Dashboard

open Webhook (Envelope Form)

/-! ## What a console goes through -/

/-- An event, with the instant and the console that it finds. -/
structure Moment where
  console : Console
  now : Nat
  event : Event

namespace Moment

def next (m : Moment) : Console := (m.console.update m.now m.event).state

/-- The toasts that the event added to those that were there. -/
def shown (m : Moment) : List Toast := m.next.toasts.drop m.console.toasts.length

end Moment

/-- What a console may go through from its start on, the newest moment first.  Events
come in any order and at any instants, and answers need not belong to jobs that were
handed out. -/
inductive Life (first : Console) : List Moment → Console → Prop
  | start : Life first [] first
  | react {past : List Moment} {c : Console} (life : Life first past c) (now : Nat)
      (event : Event) : Life first (⟨c, now, event⟩ :: past) (c.update now event).state
  | prune {past : List Moment} {c : Console} (life : Life first past c) (now : Nat) :
      Life first past (c.prune now)

/-- All toasts that were ever shown, the newest first. -/
def everShown (first : Console) (past : List Moment) : List Toast :=
  past.flatMap (fun m => m.shown.reverse) ++ first.toasts.reverse

/-! ## News -/

/-- What there can be to tell. -/
inductive News where
  /-- A save succeeded. -/
  | saved
  /-- A save failed. -/
  | unsaved
  /-- The latest load failed. -/
  | unloaded
  /-- A save was asked for without a key. -/
  | refused
  deriving DecidableEq

namespace News

def level : News → ToastLevel
  | .saved => .success
  | .unsaved | .unloaded | .refused => .error

def message : News → String
  | .saved => "Webhook settings saved successfully!"
  | .unsaved => "Failed to save webhook settings"
  | .unloaded => "Failed to load webhook settings"
  | .refused => "Failed to save webhook settings: " ++ ApiError.keyMissing.describe

def toast (news : News) (now : Nat) : Toast := ⟨news.level, news.message, now⟩

end News

/-- What a console has to tell about an event. -/
def Console.news? (c : Console) : Event → Option News
  | .settingsSaved (.ok ()) => some .saved
  | .settingsSaved (.error _) => some .unsaved
  | .settingsLoaded generation (.error _) =>
    if generation = c.form.latestLoad then some .unloaded else none
  | .key k modifiers =>
    if c.mode.AsksToSave k modifiers ∧ c.hasKey = false then some .refused else none
  | .settingsLoaded _ (.ok _) | .statusLoaded _ _ => none

def Moment.news? (m : Moment) : Option News := m.console.news? m.event

/-! ## The key -/

/-- If there is no key, it was told. -/
def Desk.Warned (d : Desk) : Prop := d.hasKey = false → d.form.keyWarned = true

theorem Webhook.Form.finishLoad_keyWarned (f : Form) (generation : Nat)
    (result : Except ApiError Envelope) :
    (f.finishLoad generation result).state.keyWarned = f.keyWarned := by
  unfold finishLoad
  split
  · rfl
  · cases result <;> rfl

theorem Webhook.Form.beginLoad_keyWarned (f : Form) (hasKey : Bool) :
    (f.beginLoad hasKey).2.keyWarned = (f.keyWarned || !hasKey) := by
  cases hasKey <;> simp [beginLoad]

theorem Webhook.Form.beginSave_keyWarned (f : Form) (hasKey : Bool) :
    (f.beginSave hasKey).2.keyWarned = f.keyWarned := by
  obtain ⟨issue, _⟩ | ⟨same, _⟩ := f.beginSave_cases hasKey
  · rw [issue]
  · rw [same]

/-- What was told stays told. -/
theorem Effect.warned {d d' : Desk} {move : Move} {jobs : List Job}
    (effect : Effect d move d' jobs) (warned : d.Warned) : d'.Warned := by
  cases effect with
  | silent _ | steer _ | select _ | enter _ _ | leave | edit _ _ | status | unsaved => exact warned
  | start | load _ | saved =>
      intro keyless
      show ((_ : Form).beginLoad d.hasKey).2.keyWarned = true
      rw [Form.beginLoad_keyWarned, (keyless : d.hasKey = false)]
      exact Bool.or_true _
  | save _ =>
      intro keyless
      exact (Form.beginSave_keyWarned _ _).trans (warned keyless)
  | loaded =>
      intro keyless
      exact (Form.finishLoad_keyWarned _ _ _).trans (warned keyless)

namespace Console

/-! ## Events and their news -/

theorem loadSettings_toasts (c : Console) (now : Nat) :
    (c.loadSettings now).state.toasts =
      if c.hasKey = false ∧ c.form.keyWarned = false then
        c.toasts ++ [⟨.warning, missingKeyWarning, now⟩]
      else c.toasts := by
  unfold loadSettings Form.beginLoad
  cases c.hasKey <;> cases c.form.keyWarned <;> rfl

/-- Once it was told that there is no key, a wish to load tells nothing. -/
theorem loadSettings_toasts_of_warned {c : Console} (warned : c.desk.Warned) (now : Nat) :
    (c.loadSettings now).state.toasts = c.toasts := by
  rw [loadSettings_toasts, if_neg]
  rintro ⟨keyless, untold⟩
  cases (warned keyless).symm.trans untold

theorem saveSettings_toasts (c : Console) (now : Nat) :
    (c.saveSettings now).state.toasts =
      if c.hasKey = false then c.toasts ++ [News.refused.toast now] else c.toasts := by
  unfold saveSettings Form.beginSave
  cases c.hasKey <;> cases c.form.saving <;> cases c.form.loading <;> rfl

theorem toasts_key (c : Console) (warned : c.desk.Warned) (now : Nat) (k : Key)
    (modifiers : Modifiers) :
    (c.update now (.key k modifiers)).state.toasts =
      c.toasts ++ ((c.news? (.key k modifiers)).map (·.toast now)).toList := by
  by_cases asks : c.mode.AsksToSave k modifiers
  · rw [update_of_asksToSave now asks, saveSettings_toasts]
    show (if c.hasKey = false then c.toasts ++ _ else c.toasts) = _
    by_cases keyless : c.hasKey = false
    · have refused : c.news? (.key k modifiers) = some .refused := if_pos ⟨asks, keyless⟩
      rw [if_pos keyless, refused]
      rfl
    · have calm : c.news? (.key k modifiers) = none := if_neg fun both => keyless both.2
      rw [if_neg keyless, calm]
      exact (List.append_nil _).symm
  have calm : c.news? (.key k modifiers) = none := if_neg fun both => asks both.1
  rw [calm]
  show _ = c.toasts ++ []
  rw [List.append_nil]
  have stroke := c.stroke now k modifiers
  generalize c.update now (.key k modifiers) = reaction at stroke
  cases stroke with
  | ignored | quit _ | select _ | refresh _ | leave _ | move _ _ | insert _ _ | clear _ _ => rfl
  | enter _ =>
      unfold startEditing
      split <;> rfl
  | erase _ =>
      unfold erase
      split <;> rfl
  | save viewing held => exact absurd ⟨rfl, viewing ▸ held⟩ asks
  | leaveAndSave editing held => exact absurd ⟨rfl, editing ▸ held⟩ asks
  | load _ => exact loadSettings_toasts_of_warned warned now

theorem toasts_takeSettings (c : Console) (now : Nat) (generation : Nat)
    (result : Except ApiError Envelope) :
    (c.takeSettings now generation result).state.toasts =
      c.toasts ++ ((c.news? (.settingsLoaded generation result)).map (·.toast now)).toList := by
  obtain ⟨stale, settled⟩ | ⟨e, rfl, rfl, settled⟩ | ⟨e, rfl, rfl, settled⟩ :=
    c.takeSettings_cases now generation result
  · have calm : c.news? (.settingsLoaded generation result) = none := by
      cases result with
      | ok e => rfl
      | error e => exact if_neg stale
    rw [settled, calm]
    exact (List.append_nil _).symm
  · rw [settled]
    exact (List.append_nil _).symm
  · have failed : c.news? (.settingsLoaded c.form.latestLoad (.error e)) = some .unloaded :=
      if_pos rfl
    rw [settled, failed]
    rfl

/-- The wish to load that follows a save tells nothing. -/
theorem toasts_takeSaved (c : Console) (warned : c.desk.Warned) (now : Nat)
    (result : Except ApiError Unit) :
    (c.takeSaved now result).state.toasts =
      c.toasts ++ ((c.news? (.settingsSaved result)).map (·.toast now)).toList := by
  cases result with
  | error e => rfl
  | ok =>
      let told := ({ c with form := { c.form with saving := false } } : Console).notify now
        .success "Webhook settings saved successfully!"
      exact loadSettings_toasts_of_warned (c := told.refreshStatus.state) warned now

/-- **An event tells its news**, and nothing else. -/
theorem toasts_update (c : Console) (warned : c.desk.Warned) (now : Nat) (event : Event) :
    (c.update now event).state.toasts =
      c.toasts ++ ((c.news? event).map (·.toast now)).toList := by
  cases event with
  | key k modifiers => exact toasts_key c warned now k modifiers
  | statusLoaded generation result => exact (List.append_nil _).symm
  | settingsLoaded generation result => exact toasts_takeSettings c now generation result
  | settingsSaved result => exact toasts_takeSaved c warned now result

end Console

/-! ## A whole life -/

namespace Moment

/-- The toast that tells the news. -/
def toast? (m : Moment) : Option Toast := m.news?.map (·.toast m.now)

theorem toasts_next (m : Moment) (warned : m.console.desk.Warned) :
    m.next.toasts = m.console.toasts ++ m.toast?.toList :=
  Console.toasts_update m.console warned m.now m.event

theorem shown_eq (m : Moment) (warned : m.console.desk.Warned) : m.shown = m.toast?.toList := by
  rw [shown, m.toasts_next warned, List.drop_left]

end Moment

namespace Life

variable {first c : Console} {past : List Moment}

theorem warned (life : Life first past c) (begun : first.desk.Warned) :
    c.desk.Warned ∧ ∀ m ∈ past, m.console.desk.Warned := by
  induction life with
  | start => exact ⟨begun, fun _ none => absurd none List.not_mem_nil⟩
  | @react past c _ now event ih =>
      refine ⟨(c.effect now event).warned ih.1, ?_⟩
      rintro m (_ | ⟨_, earlier⟩)
      · exact ih.1
      · exact ih.2 m earlier
  | prune _ _ ih => exact ih

/-- **The toasts of all times** are those of the start and those that tell the news. -/
theorem everShown_eq (life : Life first past c) (begun : first.desk.Warned) :
    everShown first past = past.filterMap Moment.toast? ++ first.toasts.reverse := by
  have shown : past.flatMap (fun m => m.shown.reverse) = past.filterMap Moment.toast? := by
    rw [List.filterMap_eq_flatMap_toList]
    refine List.flatMap_congr fun m hm => ?_
    rw [m.shown_eq ((life.warned begun).2 m hm)]
    cases m.toast? <;> rfl
  rw [everShown, shown]

end Life

/-- The toasts of a level are as many as the news that have it. -/
theorem countP_toast? (past : List Moment) (level : ToastLevel) :
    (past.filterMap Moment.toast?).countP (·.level = level) =
      (past.filterMap Moment.news?).countP (·.level = level) := by
  rw [List.countP_filterMap, List.countP_filterMap]
  refine List.countP_congr fun m _ => ?_
  rw [Moment.toast?]
  cases m.news? <;> rfl

theorem countP_success (news : List News) :
    news.countP (·.level = .success) = news.count .saved := by
  refine List.countP_congr fun n _ => ?_
  cases n <;> simp [News.level]

theorem countP_error (news : List News) :
    news.countP (·.level = .error) =
      news.count .unsaved + news.count .unloaded + news.count .refused := by
  induction news with
  | nil => rfl
  | cons n news ih =>
      rw [List.countP_cons, List.count_cons, List.count_cons, List.count_cons, ih]
      cases n <;> simp +arith [News.level]

theorem countP_warning (news : List News) : news.countP (·.level = .warning) = 0 := by
  rw [List.countP_eq_zero]
  intro n _
  cases n <;> simp [News.level]

/-! ## From the start on -/

/-- A console right after its start. -/
def Console.begun (budget : Budget) (hasKey : Bool) (now : Nat) : Console :=
  ((Console.new budget hasKey).start now).state

section Start

variable {budget : Budget} {hasKey : Bool} {now : Nat}

theorem Console.begun_toasts : (begun budget hasKey now).toasts =
    if hasKey then [] else [⟨.warning, missingKeyWarning, now⟩] := by
  cases hasKey <;> rfl

theorem Console.begun_warned : (begun budget hasKey now).desk.Warned := by
  cases hasKey with
  | false => exact fun _ => rfl
  | true => nofun

variable {past : List Moment} {c : Console}

theorem Life.everShown_begun (life : Life (Console.begun budget hasKey now) past c) :
    everShown (Console.begun budget hasKey now) past = past.filterMap Moment.toast? ++
      if hasKey then [] else [⟨.warning, Console.missingKeyWarning, now⟩] := by
  rw [life.everShown_eq Console.begun_warned, Console.begun_toasts]
  cases hasKey <;> rfl

theorem Life.countP_level (life : Life (Console.begun budget hasKey now) past c)
    (level : ToastLevel) :
    (everShown (Console.begun budget hasKey now) past).countP (·.level = level) =
      (past.filterMap Moment.news?).countP (·.level = level) +
        if hasKey ∨ level ≠ .warning then 0 else 1 := by
  rw [life.everShown_begun, List.countP_append, countP_toast?]
  cases hasKey <;> cases level <;> rfl

/-- A problem with the status is kept where the status is shown. -/
theorem Moment.problem_next {m : Moment} {e : ApiError}
    (failed : m.event = .statusLoaded m.console.cache.generation (.error e)) :
    m.next.cache.problem = some e.describe := by
  rw [next, failed]
  show (m.console.cache.commit _ _).state.problem = _
  rw [StatusCache.commit_error]

/-- **Each outcome is told once.**  Of all toasts that were ever shown, as many tell a
success as saves succeeded.  As many tell an error as saves failed, loads failed that were
the latest by then, and saves were asked for without a key.  If there is no key, one toast
warns of that, which is the one of the start.  A request for the status that fails tells
nothing; its place on the screen says why it failed. -/
theorem Life.tells (life : Life (Console.begun budget hasKey now) past c) :
    let shown := everShown (Console.begun budget hasKey now) past
    let news := past.filterMap Moment.news?
    shown.countP (·.level = .success) = news.count .saved ∧
      shown.countP (·.level = .error) =
        news.count .unsaved + news.count .unloaded + news.count .refused ∧
      shown.countP (·.level = .warning) = (if hasKey then 0 else 1) ∧
      shown = past.filterMap Moment.toast? ++
        (if hasKey then [] else [⟨.warning, Console.missingKeyWarning, now⟩]) ∧
      ∀ m ∈ past, m.next.toasts = m.console.toasts ++ m.shown ∧
        ∀ e, m.event = .statusLoaded m.console.cache.generation (.error e) →
          m.shown = [] ∧ m.next.cache.problem = some e.describe := by
  have warned := (life.warned Console.begun_warned).2
  refine ⟨?success, ?error, ?warning, life.everShown_begun, fun m hm => ⟨?_, fun e failed => ?_⟩⟩
  case success =>
    rw [life.countP_level, countP_success]
    simp
  case error =>
    rw [life.countP_level, countP_error]
    simp
  case warning =>
    rw [life.countP_level, countP_warning]
    simp
  · rw [m.shown_eq (warned m hm)]
    exact m.toasts_next (warned m hm)
  · refine ⟨?_, Moment.problem_next failed⟩
    rw [m.shown_eq (warned m hm), Moment.toast?, Moment.news?, failed]
    rfl

end Start

/-- Without a key, somebody loads again and asks for a save twice.  The save that was
asked for while nobody edited and the one that was asked for while editing are told of,
the load is not. -/
theorem tells_refused : ∃ past c, Life (Console.begun ⟨.nan, .nan⟩ false 0) past c ∧
    c.toasts = [] ∧
    (everShown (Console.begun ⟨.nan, .nan⟩ false 0) past).countP (·.level = .success) = 0 ∧
    (everShown (Console.begun ⟨.nan, .nan⟩ false 0) past).countP (·.level = .error) = 2 ∧
    (everShown (Console.begun ⟨.nan, .nan⟩ false 0) past).countP (·.level = .warning) = 1 := by
  have life : Life (Console.begun ⟨.nan, .nan⟩ false 0) [] _ := .start
  have life := life.react 1 (.key (.char 'R') .none)
  have life := life.react 2 (.key (.char 's') .none)
  have life := life.react 3 (.statusLoaded 1 (.error .keyMissing))
  have life := life.react 4 (.key .enter .none)
  have life := life.react 5 (.key (.char 's') .onlyControl)
  have life := life.prune 6_000_000_000
  obtain ⟨success, error, warning, _⟩ := life.tells
  exact ⟨_, _, life, by decide +kernel, success, error, warning⟩

end Dashboard
