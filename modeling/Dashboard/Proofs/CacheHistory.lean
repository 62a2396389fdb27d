import Dashboard.StatusCache
import Mathlib.Logic.Basic

/-!
# What was done with the status cache

A cache begins empty, and from then on requests are issued, answers are offered
and the cache may be closed, in any order and with any generations and results.
`StatusCache.after` is the cache that this leads to.  Its histories are lists of
operations, the newest first, so `newer ++ operation :: older` is a history in
which `older` was done before `operation` and `newer` after it.

An answer that is offered counts only if it is to the latest request.  Before the
first request the latest generation is zero, and an answer with this number
counts too, although nobody asked.

## Main definitions

* `StatusCache.Operation`, `StatusCache.after` — what is done, and what it leads to.
* `StatusCache.Accepted` — the answer to a request was taken.

## Main results

* `StatusCache.commit_latest`, `StatusCache.commit_stale` — the two things that an
  answer can do.
* `StatusCache.value_commit` — just when it is taken.
-/

namespace Dashboard.StatusCache

/-! ## Answers -/

section Commit

variable {c : StatusCache} {generation : Nat} {result : Except ApiError ServerStatus}

theorem commit_stale (stale : generation ≠ c.generation) : (c.commit generation result).state = c := by
  simp [commit, stale]

theorem commit_ok (c : StatusCache) (status : ServerStatus) :
    (c.commit c.generation (.ok status)).state =
      { c with inFlight := none, loading := false, status := some status, problem := none } := by
  simp [commit, Outcome.silent]

theorem commit_error (c : StatusCache) (e : ApiError) :
    (c.commit c.generation (.error e)).state =
      { c with inFlight := none, loading := false, status := none, problem := some e.describe } := by
  simp [commit]

/-- The answer to the latest request ends the waiting for it. -/
theorem commit_latest (c : StatusCache) (result : Except ApiError ServerStatus) :
    ∃ problem, (c.commit c.generation result).state =
      { c with inFlight := none, loading := false, status := result.toOption, problem := problem } := by
  cases result with
  | ok status => exact ⟨none, commit_ok c status⟩
  | error e => exact ⟨some e.describe, commit_error c e⟩

theorem commit_generation (c : StatusCache) (generation : Nat)
    (result : Except ApiError ServerStatus) :
    (c.commit generation result).state.generation = c.generation := by
  by_cases latest : generation = c.generation
  · subst latest
    obtain ⟨_, settled⟩ := c.commit_latest result
    rw [settled]
  · rw [commit_stale latest]

/-- An answer is taken just if it is to the latest request. -/
theorem value_commit : (c.commit generation result).value = true ↔ generation = c.generation := by
  unfold commit
  split
  · next stale => exact iff_of_false (by simp) stale
  · next latest =>
      have taken : generation = c.generation := not_not.1 latest
      cases result <;> exact iff_of_true rfl taken

end Commit

/-! ## Histories -/

/-- What can be done with a cache. -/
inductive Operation where
  /-- A request is issued. -/
  | refresh
  /-- An answer is offered. -/
  | commit (generation : Nat) (result : Except ApiError ServerStatus)
  /-- All requests are withdrawn, past and future ones. -/
  | close

def apply (c : StatusCache) : Operation → StatusCache
  | .refresh => c.refresh
  | .commit generation result => (c.commit generation result).state
  | .close => c.close

/-- The cache after these operations on a new one, the newest first. -/
def after : List Operation → StatusCache
  | [] => new
  | operation :: older => (after older).apply operation

/-- The request of this generation was answered, and the answer was taken. -/
def Accepted (history : List Operation) (generation : Nat) : Prop :=
  ∃ newer result older, history = newer ++ .commit generation result :: older ∧
    ((after older).commit generation result).value = true

theorem not_accepted_nil (generation : Nat) : ¬ Accepted [] generation := by
  rintro ⟨newer, _, _, split, _⟩
  cases newer <;> cases split

theorem accepted_cons {history : List Operation} {operation : Operation} {generation : Nat} :
    Accepted (operation :: history) generation ↔
      (∃ result, operation = .commit generation result ∧ generation = (after history).generation) ∨
        Accepted history generation := by
  constructor
  · rintro ⟨newer, result, older, split, taken⟩
    obtain ⟨rfl, same⟩ | ⟨newer, rfl, rest⟩ := List.cons_eq_append_iff.1 split
    · cases same
      exact .inl ⟨result, rfl, value_commit.1 taken⟩
    · exact .inr ⟨newer, result, older, rest, taken⟩
  · rintro (⟨result, rfl, latest⟩ | ⟨newer, result, older, rfl, taken⟩)
    · exact ⟨[], result, history, rfl, value_commit.2 latest⟩
    · exact ⟨operation :: newer, result, older, rfl, taken⟩

end Dashboard.StatusCache
