import Dashboard.Proofs.CacheHistory

/-!
# Which requests are withdrawn

A cache keeps one request that a refresh would withdraw, and forgets it as soon as
it is answered.  So a refresh withdraws the request before it just if that was not
answered, and then no answer to it is taken any more.  A request that was answered
in time is never withdrawn by a refresh, however many follow.

Closing the cache is stronger: it withdraws the requests of all times, and from
then on the cache keeps none.

## Main results

* `StatusCache.supersededIn_iff` — a request is superseded if it is not the latest
  and was not answered in time.
* `StatusCache.isWithdrawn_after_iff` — a request is withdrawn if it is superseded
  or the cache was closed, and else not.
-/

namespace Dashboard.StatusCache

/-- A request was issued after the one of this generation, at a time when no answer
to that one had been taken. -/
def SupersededIn (history : List Operation) (generation : Nat) : Prop :=
  ∃ newer older, history = newer ++ .refresh :: older ∧
    generation ≤ (after older).generation ∧ ¬ Accepted older generation

theorem not_supersededIn_nil (generation : Nat) : ¬ SupersededIn [] generation := by
  rintro ⟨newer, _, split, _⟩
  cases newer <;> cases split

theorem supersededIn_cons {history : List Operation} {operation : Operation} {generation : Nat} :
    SupersededIn (operation :: history) generation ↔
      (operation = .refresh ∧ generation ≤ (after history).generation ∧
        ¬ Accepted history generation) ∨ SupersededIn history generation := by
  constructor
  · rintro ⟨newer, older, split, issued, open_⟩
    obtain ⟨rfl, same⟩ | ⟨newer, rfl, rest⟩ := List.cons_eq_append_iff.1 split
    · cases same
      exact .inl ⟨rfl, issued, open_⟩
    · exact .inr ⟨newer, older, rest, issued, open_⟩
  · rintro (⟨rfl, issued, open_⟩ | ⟨newer, older, rfl, issued, open_⟩)
    · exact ⟨[], history, rfl, issued, open_⟩
    · exact ⟨operation :: newer, older, rfl, issued, open_⟩

/-- Closing the cache answers no request. -/
theorem accepted_close {history : List Operation} {generation : Nat} :
    Accepted (.close :: history) generation ↔ Accepted history generation := by
  simp [accepted_cons]

theorem accepted_refresh {history : List Operation} {generation : Nat} :
    Accepted (.refresh :: history) generation ↔ Accepted history generation := by
  simp [accepted_cons]

/-- An answer concerns no request but the latest. -/
theorem accepted_commit_of_lt {history : List Operation} {generation g : Nat}
    {result : Except ApiError ServerStatus} (older : g < (after history).generation) :
    Accepted (.commit generation result :: history) g ↔ Accepted history g := by
  rw [accepted_cons]
  refine or_iff_right ?_
  rintro ⟨_, _, latest⟩
  omega

/-- A refresh withdraws the request that the cache keeps. -/
theorem isWithdrawn_refresh {c : StatusCache} {generation : Nat} :
    c.refresh.isWithdrawn generation = true ↔
      c.isWithdrawn generation = true ∨ c.inFlight = some generation := by
  show (c.closed || (c.inFlight.toList ++ c.superseded).contains generation) = true ↔ _
  rw [isWithdrawn, Bool.or_eq_true, Bool.or_eq_true, List.contains_iff_mem, List.contains_iff_mem,
    List.mem_append, Option.mem_toList]
  grind

theorem generation_commit (history : List Operation) (generation : Nat)
    (result : Except ApiError ServerStatus) :
    (after (.commit generation result :: history)).generation = (after history).generation :=
  (after history).commit_generation generation result

/-- **A request is superseded if it is not the latest and was not answered in
time**, and else not. -/
theorem supersededIn_iff {history : List Operation} {generation : Nat} :
    SupersededIn history generation ↔
      generation < (after history).generation ∧ ¬ Accepted history generation := by
  induction history with
  | nil => exact iff_of_false (not_supersededIn_nil generation) (fun later => nomatch later.1)
  | cons operation history ih =>
      rw [supersededIn_cons, ih]
      cases operation with
      | refresh =>
          rw [accepted_refresh]
          show _ ↔ generation < (after history).generation + 1 ∧ _
          grind
      | commit g result =>
          rw [generation_commit]
          refine ⟨?_, ?_⟩
          · rintro (⟨other, _⟩ | ⟨older, open_⟩)
            · cases other
            · exact ⟨older, fun taken => open_ ((accepted_commit_of_lt older).1 taken)⟩
          · rintro ⟨older, open_⟩
            exact .inr ⟨older, fun taken => open_ ((accepted_commit_of_lt older).2 taken)⟩
      | close =>
          rw [accepted_close]
          show _ ↔ generation < (after history).generation ∧ _
          simp

/-! ## What the cache keeps -/

theorem closed_commit (c : StatusCache) (generation : Nat) (result : Except ApiError ServerStatus) :
    (c.commit generation result).state.closed = c.closed := by
  by_cases latest : generation = c.generation
  · subst latest
    obtain ⟨_, settled⟩ := c.commit_latest result
    rw [settled]
  · rw [commit_stale latest]

theorem closed_after_iff {history : List Operation} :
    (after history).closed = true ↔ .close ∈ history := by
  induction history with
  | nil => exact iff_of_false nofun List.not_mem_nil
  | cons operation history ih =>
      rw [List.mem_cons, ← ih]
      cases operation with
      | refresh => exact (or_iff_right nofun).symm
      | commit generation result =>
          show ((after history).commit generation result).state.closed = true ↔ _
          rw [closed_commit]
          exact (or_iff_right nofun).symm
      | close => exact iff_of_true rfl (.inl rfl)

/-- Only a request that was issued, or the number before the first, can be answered. -/
theorem Accepted.le {history : List Operation} {generation : Nat}
    (accepted : Accepted history generation) : generation ≤ (after history).generation := by
  induction history with
  | nil => exact absurd accepted (not_accepted_nil generation)
  | cons operation history ih =>
      cases operation with
      | refresh => exact Nat.le_succ_of_le (ih (accepted_refresh.1 accepted))
      | commit g result =>
          rw [generation_commit]
          rcases accepted_cons.1 accepted with ⟨_, _, latest⟩ | earlier
          · exact Nat.le_of_eq latest
          · exact ih earlier
      | close => exact ih (accepted_close.1 accepted)

/-- A cache keeps the latest request while that is not answered, and the requests that
are superseded. -/
structure Keeps (c : StatusCache) (history : List Operation) : Prop where
  inFlight : ∀ generation, c.inFlight = some generation ↔
    0 < generation ∧ generation = c.generation ∧ ¬ Accepted history generation
  superseded : ∀ generation, generation ∈ c.superseded ↔
    0 < generation ∧ SupersededIn history generation

namespace Keeps

variable {history : List Operation}

/-- The request that a refresh withdraws is the one that it supersedes. -/
theorem refresh (h : Keeps (after history) history) :
    Keeps (after history).refresh (.refresh :: history) where
  inFlight generation := by
    rw [accepted_refresh]
    show some _ = some generation ↔ 0 < generation ∧ generation = (after history).generation + 1 ∧ _
    constructor
    · rintro ⟨⟩
      refine ⟨Nat.succ_pos _, rfl, fun accepted => ?_⟩
      have := accepted.le
      omega
    · rintro ⟨_, rfl, _⟩
      rfl
  superseded generation := by
    show generation ∈ (after history).inFlight.toList ++ (after history).superseded ↔ _
    rw [List.mem_append, Option.mem_toList, h.inFlight, h.superseded,
      supersededIn_iff, supersededIn_iff, accepted_refresh]
    show _ ↔ 0 < generation ∧ generation < (after history).generation + 1 ∧ _
    grind

theorem commit (h : Keeps (after history) history) (generation : Nat)
    (result : Except ApiError ServerStatus) :
    Keeps ((after history).commit generation result).state (.commit generation result :: history) := by
  have same (g : Nat) : SupersededIn (.commit generation result :: history) g ↔
      SupersededIn history g := by simp [supersededIn_cons]
  by_cases latest : generation = (after history).generation
  · subst latest
    obtain ⟨_, settled⟩ := (after history).commit_latest result
    rw [settled]
    refine ⟨fun g => iff_of_false nofun ?_, fun g => (h.superseded g).trans (by rw [same])⟩
    rintro ⟨_, rfl, open_⟩
    exact open_ (accepted_cons.2 (.inl ⟨result, rfl, rfl⟩))
  · rw [commit_stale latest]
    refine ⟨fun g => (h.inFlight g).trans ?_, fun g => (h.superseded g).trans (by rw [same])⟩
    have ignored : Accepted (.commit generation result :: history) (after history).generation ↔
        Accepted history (after history).generation := by
      rw [accepted_cons]
      refine or_iff_right ?_
      rintro ⟨_, ⟨⟩, _⟩
      exact latest rfl
    constructor
    · rintro ⟨issued, rfl, open_⟩
      exact ⟨issued, rfl, mt ignored.1 open_⟩
    · rintro ⟨issued, rfl, open_⟩
      exact ⟨issued, rfl, mt ignored.2 open_⟩

end Keeps

theorem keeps_after {history : List Operation} (opened : .close ∉ history) :
    Keeps (after history) history := by
  induction history with
  | nil =>
      refine ⟨fun generation => iff_of_false nofun ?_, fun generation => iff_of_false nofun ?_⟩
      · rintro ⟨issued, rfl, _⟩
        exact Nat.lt_irrefl 0 issued
      · exact fun superseded => not_supersededIn_nil generation superseded.2
  | cons operation history ih =>
      obtain ⟨other, before⟩ := not_or.1 (mt List.mem_cons.2 opened)
      cases operation with
      | refresh => exact (ih before).refresh
      | commit generation result => exact (ih before).commit generation result
      | close => exact absurd rfl other

/-- **A request is withdrawn just if the cache was closed or the request is
superseded**, whether it was closed before the request was issued or after. -/
theorem isWithdrawn_after_iff {history : List Operation} {generation : Nat}
    (numbered : 0 < generation) :
    (after history).isWithdrawn generation = true ↔
      .close ∈ history ∨ SupersededIn history generation := by
  rw [isWithdrawn, Bool.or_eq_true, List.contains_iff_mem, closed_after_iff]
  by_cases closed : .close ∈ history
  · exact iff_of_true (.inl closed) (.inl closed)
  · rw [or_iff_right closed, or_iff_right closed, (keeps_after closed).superseded,
      and_iff_right numbered]

end Dashboard.StatusCache
