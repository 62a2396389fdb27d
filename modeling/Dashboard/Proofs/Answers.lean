import Dashboard.Proofs.StatusRequests

/-!
# Answers to requests for the status and to loads

An answer to a request for the status concerns the cache, and an answer to a
load concerns the form, the caret and the toasts.  Either counts only if its
request is the latest of its kind: a request that is not is *superseded*, and
the answer to it leaves the console as it is.

No answer of these two kinds leads to a job, and none changes which requests
are superseded.

## Main results

* `Console.update_superseded` — an answer that comes too late does nothing.
* `Console.takeSettings_cases` — what an answer to a load does.
* `Console.jobs_of_fetched`, `Console.superseded_update` — what answers of these
  two kinds never do.
-/

namespace Dashboard

open Webhook (Envelope Form Urls)

/-- The answer is to a request for the status or to a load. -/
def Answer.Fetched (answer : Answer) : Prop := answer.request ≠ .save

namespace Console

/-- A newer request of the same kind was issued; saves are not superseded. -/
def Superseded (c : Console) : Request → Prop
  | .status generation => generation ≠ c.cache.generation
  | .load generation => generation ≠ c.form.latestLoad
  | .save => False

/-! ## The two kinds of answers -/

theorem takeStatus_state (c : Console) (generation : Nat)
    (result : Except ApiError ServerStatus) :
    (c.takeStatus generation result).state =
      { c with cache := (c.cache.commit generation result).state } := rfl

theorem takeSettings_stale {c : Console} {generation : Nat} (now : Nat)
    (result : Except ApiError Envelope) (stale : generation ≠ c.form.latestLoad) :
    (c.takeSettings now generation result).state = c := by
  simp [takeSettings, Form.finishLoad, stale]

/-- Where the caret stands once these are the URLs: who edits keeps it as far as
the text reaches. -/
def caretIn (c : Console) (urls : Urls) : Nat :=
  if c.mode = .viewing then c.caret else min c.caret (urls.get c.selected).toList.length

theorem takeSettings_ok (c : Console) (now : Nat) (e : Envelope) :
    (c.takeSettings now c.form.latestLoad (.ok e)).state =
      { c with
        form := { c.form with loading := false, urls := e.resolve }
        caret := c.caretIn e.resolve } := by
  by_cases viewing : c.mode = .viewing <;>
    simp [takeSettings, Form.finishLoad, Outcome.silent, caretIn, clampCaret, currentLength,
      currentText, viewing]

theorem takeSettings_error (c : Console) (now : Nat) (e : ApiError) :
    (c.takeSettings now c.form.latestLoad (.error e)).state =
      { c with form := { c.form with loading := false } }.notify now .error
        "Failed to load webhook settings" := by
  simp [takeSettings, Form.finishLoad, Outcome.silent]

/-- An answer to a load is dropped, applied or told of. -/
theorem takeSettings_cases (c : Console) (now : Nat) (generation : Nat)
    (result : Except ApiError Envelope) :
    (generation ≠ c.form.latestLoad ∧ (c.takeSettings now generation result).state = c) ∨
      (∃ e, generation = c.form.latestLoad ∧ result = .ok e ∧
        (c.takeSettings now generation result).state =
          { c with
            form := { c.form with loading := false, urls := e.resolve }
            caret := c.caretIn e.resolve }) ∨
      ∃ e, generation = c.form.latestLoad ∧ result = .error e ∧
        (c.takeSettings now generation result).state =
          { c with form := { c.form with loading := false } }.notify now .error
            "Failed to load webhook settings" := by
  by_cases latest : generation = c.form.latestLoad
  · subst latest
    cases result with
    | ok e => exact .inr (.inl ⟨e, rfl, rfl, takeSettings_ok c now e⟩)
    | error e => exact .inr (.inr ⟨e, rfl, rfl, takeSettings_error c now e⟩)
  · exact .inl ⟨latest, takeSettings_stale now result latest⟩

/-- An answer to a load does not touch the cache, -/
theorem takeSettings_cache (c : Console) (now : Nat) (generation : Nat)
    (result : Except ApiError Envelope) :
    (c.takeSettings now generation result).state.cache = c.cache := by
  obtain ⟨_, settled⟩ | ⟨_, _, _, settled⟩ | ⟨_, _, _, settled⟩ :=
    c.takeSettings_cases now generation result <;> simp [settled, notify]

/-- and does not look into it. -/
theorem takeSettings_withCache (c : Console) (cache : StatusCache) (now : Nat) (generation : Nat)
    (result : Except ApiError Envelope) :
    (({ c with cache := cache } : Console).takeSettings now generation result).state =
      { (c.takeSettings now generation result).state with cache := cache } := by
  obtain ⟨stale, settled⟩ | ⟨e, rfl, rfl, settled⟩ | ⟨e, rfl, rfl, settled⟩ :=
    c.takeSettings_cases now generation result
  · rw [settled]
    exact takeSettings_stale now result stale
  · rw [settled]
    exact takeSettings_ok { c with cache := cache } now e
  · rw [settled]
    exact takeSettings_error { c with cache := cache } now e

theorem takeSettings_latestLoad (c : Console) (now : Nat) (generation : Nat)
    (result : Except ApiError Envelope) :
    (c.takeSettings now generation result).state.form.latestLoad = c.form.latestLoad := by
  obtain ⟨_, settled⟩ | ⟨_, _, _, settled⟩ | ⟨_, _, _, settled⟩ :=
    c.takeSettings_cases now generation result <;> simp [settled, notify]

/-- The news that a save had succeeded is followed by a request for the status
and a load, in this order. -/
theorem jobs_takeSaved_ok {c : Console} (now : Nat) (key : c.hasKey = true) :
    (c.takeSaved now (.ok ())).value =
      [.fetchStatus (c.cache.generation + 1), .fetchSettings (c.form.latestLoad + 1)] := by
  let told := ({ c with form := { c.form with saving := false } } : Console).notify now
    .success "Webhook settings saved successfully!"
  show (told.refreshAndLoad now).value = _
  have loads : (told.form.beginLoad told.hasKey).1 = .issue (c.form.latestLoad + 1) := by
    simp [told, notify, Form.beginLoad, key]
  rw [refreshAndLoad_jobs, loads]
  rfl

/-! ## What answers never do -/

section Fetched

variable {c : Console} {answer : Answer}

/-- **An answer that comes too late does nothing.** -/
theorem update_superseded (now : Nat) (superseded : c.Superseded answer.request) :
    (c.update now answer.event).state = c := by
  cases answer with
  | status generation result =>
      show (c.takeStatus generation result).state = c
      rw [takeStatus_state, StatusCache.commit_stale superseded]
  | settings generation result => exact takeSettings_stale now result superseded
  | saved result => exact superseded.elim

theorem jobs_of_fetched (now : Nat) (fetched : answer.Fetched) :
    (c.update now answer.event).value = [] := by
  cases answer with
  | status generation result => rfl
  | settings generation result =>
      show (c.takeSettings now generation result).value = []
      unfold takeSettings
      dsimp only
      split <;> rfl
  | saved result => exact absurd rfl fetched

/-- An answer supersedes no request. -/
theorem superseded_update (now : Nat) (fetched : answer.Fetched) (r : Request) :
    (c.update now answer.event).state.Superseded r ↔ c.Superseded r := by
  have asked : (c.update now answer.event).state.cache.generation = c.cache.generation := by
    cases answer with
    | status generation result => exact c.cache.commit_generation generation result
    | settings generation result =>
        exact congrArg StatusCache.generation (takeSettings_cache c now generation result)
    | saved result => exact absurd rfl fetched
  have loaded : (c.update now answer.event).state.form.latestLoad = c.form.latestLoad := by
    cases answer with
    | status generation result => rfl
    | settings generation result => exact takeSettings_latestLoad c now generation result
    | saved result => exact absurd rfl fetched
  cases r with
  | status generation => simp only [Superseded, asked]
  | load generation => simp only [Superseded, loaded]
  | save => exact Iff.rfl

end Fetched

end Console

end Dashboard
