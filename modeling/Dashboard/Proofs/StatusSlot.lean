import Dashboard.Proofs.CacheHistory
import Dashboard.Screen.Panels

/-!
# One slot for the status

The cache has room for one answer: a status or a problem.  Requests and answers
change three fields of it, each in a way of its own.  A request takes the problem
away and keeps the status, so the old status stays on the screen while the new
one is awaited; a failure takes the status away.

The panel reads these fields one by one, and says that it is waiting whenever it
finds neither.  `OneSlot` is what makes this true: whoever once asked and is not
waiting has an answer.

## Main results

* `StatusCache.oneSlot_after` — the slot after any history.
* `StatusCache.mem_lines_waiting` — just when the panel says that it is waiting.
* `StatusCache.slot_after` — both, of any history.
-/

namespace Dashboard.StatusCache

open Screen (Line failureLines waitingLine waitingLines)

/-- Nobody asked, and no answer was taken. -/
def Untouched (history : List Operation) : Prop :=
  .refresh ∉ history ∧ ∀ generation, ¬ Accepted history generation

theorem Untouched.cons {history : List Operation} {operation : Operation}
    (untouched : Untouched history) (other : operation ≠ .refresh)
    (refused : ∀ result, operation ≠ .commit (after history).generation result) :
    Untouched (operation :: history) := by
  refine ⟨?_, fun generation taken => ?_⟩
  · rintro (_ | ⟨_, earlier⟩)
    · exact other rfl
    · exact untouched.1 earlier
  · rcases accepted_cons.1 taken with ⟨result, offered, rfl⟩ | earlier
    · exact refused result offered
    · exact untouched.2 generation earlier

/-- The slot of a cache with this history: it holds a status or a problem, and not
both.  While a request is awaited it holds no problem.  It is empty only while a
request is awaited, or if nothing ever happened. -/
structure OneSlot (c : StatusCache) (history : List Operation) : Prop where
  apart : c.status = none ∨ c.problem = none
  hopeful : c.loading = true → c.problem = none
  filled : c.loading = false → c.status = none → c.problem = none → Untouched history

namespace OneSlot

variable {c : StatusCache} {history : List Operation}

theorem refresh (c : StatusCache) (history : List Operation) :
    OneSlot c.refresh (.refresh :: history) where
  apart := .inr rfl
  hopeful _ := rfl
  filled idle := by cases idle

theorem commit (h : OneSlot (after history) history) (generation : Nat)
    (result : Except ApiError ServerStatus) :
    OneSlot ((after history).commit generation result).state
      (.commit generation result :: history) := by
  by_cases latest : generation = (after history).generation
  · subst latest
    cases result with
    | ok status =>
        rw [commit_ok]
        exact ⟨.inr rfl, fun _ => rfl, fun _ bare _ => by cases bare⟩
    | error e =>
        rw [commit_error]
        exact ⟨.inl rfl, (by cases ·), fun _ _ clear => by cases clear⟩
  · rw [commit_stale latest]
    refine ⟨h.apart, h.hopeful, fun idle bare clear => ?_⟩
    refine (h.filled idle bare clear).cons nofun ?_
    rintro _ ⟨⟩
    exact latest rfl

theorem close (h : OneSlot c history) : OneSlot c.close (.close :: history) where
  apart := h.apart
  hopeful := h.hopeful
  filled idle bare clear := (h.filled idle bare clear).cons nofun nofun

end OneSlot

/-- **The slot holds one answer at most**, after any history. -/
theorem oneSlot_after (history : List Operation) : OneSlot (after history) history := by
  induction history with
  | nil => exact ⟨.inl rfl, fun _ => rfl, fun _ _ _ => ⟨nofun, not_accepted_nil⟩⟩
  | cons operation history ih =>
      cases operation with
      | refresh => exact .refresh _ _
      | commit generation result => exact ih.commit generation result
      | close => exact ih.close

/-! ## The panel -/

/-- **The panel says that it is waiting for a status just if there is none and no
reason why.** -/
theorem mem_lines_waiting {c : StatusCache} :
    waitingLine placeholder ∈ c.lines ↔ c.status = none ∧ c.problem = none := by
  unfold lines
  split
  · next status present =>
      -- Of the lines about a status only the last can be a line that waits.
      refine iff_of_false ?_ (by simp [present])
      simp only [List.mem_append, List.mem_flatMap]
      rintro ((alert | ⟨row, _, feature⟩) | refreshing)
      · unfold ServerStatus.alertLines at alert
        split at alert <;> simp [waitingLine, Line.single, Line.empty] at alert
      · simp [FeatureRow.lines, waitingLine, Line.single] at feature
      · split at refreshing <;> simp [waitingLine, placeholder, Line.empty] at refreshing
  · next problem _ present =>
      refine iff_of_false ?_ (by simp [present])
      simp [failureLines, waitingLine, Line.single, Line.empty]
  · next bare clear => exact iff_of_true (by simp [waitingLines]) ⟨bare, clear⟩

/-- **The slot for the status**, after any history.  It never holds a status and a
problem.  While a request is awaited it holds no problem, and else it holds one of
the two, unless nobody ever asked and no answer was taken.  An answer that is
refused changes nothing.  Once somebody asked, the panel says that it is waiting
for a status only while a request is awaited. -/
theorem slot_after (history : List Operation) :
    ((after history).status = none ∨ (after history).problem = none) ∧
      ((after history).loading = true → (after history).problem = none) ∧
      ((after history).loading = false →
        ((after history).status ≠ none ∧ (after history).problem = none) ∨
          ((after history).status = none ∧ (after history).problem ≠ none) ∨
            ((after history).status = none ∧ (after history).problem = none ∧
              Untouched history)) ∧
      (∀ generation result, ((after history).commit generation result).value = false →
        ((after history).commit generation result).state = after history) ∧
      (.refresh ∈ history → waitingLine placeholder ∈ (after history).lines →
        (after history).loading = true) := by
  have slot := oneSlot_after history
  refine ⟨slot.apart, slot.hopeful, fun idle => ?_, fun generation result refused => ?_,
    fun asked waiting => ?_⟩
  · by_cases bare : (after history).status = none
    · by_cases clear : (after history).problem = none
      · exact .inr (.inr ⟨bare, clear, slot.filled idle bare clear⟩)
      · exact .inr (.inl ⟨bare, clear⟩)
    · exact .inl ⟨bare, slot.apart.resolve_left bare⟩
  · apply commit_stale
    intro latest
    cases refused.symm.trans (value_commit.2 latest)
  · obtain ⟨bare, clear⟩ := mem_lines_waiting.1 waiting
    rw [← Bool.not_eq_false]
    intro idle
    exact (slot.filled idle bare clear).1 asked

/-- A request failed and was made anew.  The panel waits again, and a late answer to
the first request is refused. -/
theorem slot_after_retried :
    let history : List Operation := [.refresh, .commit 1 (.error .keyMissing), .refresh]
    .refresh ∈ history ∧ waitingLine placeholder ∈ (after history).lines ∧
      (after history).loading = true ∧ (after history).problem = none ∧
      ((after history).commit 1 (.error .keyMissing)).state = after history := by
  intro history
  have asked : .refresh ∈ history := List.mem_cons_self
  have waiting : waitingLine placeholder ∈ (after history).lines := mem_lines_waiting.2 ⟨rfl, rfl⟩
  obtain ⟨_, hopeful, _, refused, awaited⟩ := slot_after history
  exact ⟨asked, waiting, awaited asked waiting, hopeful (awaited asked waiting),
    refused 1 (.error .keyMissing) rfl⟩

end Dashboard.StatusCache
