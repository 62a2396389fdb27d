import Dashboard.Proofs.Answers
import Mathlib.Data.List.Nodup

/-!
# Answers may arrive in any order

Answers to requests for the status and to loads lead to the same console in
whatever order they arrive, if no two of them are to the same request.  At most
one of each kind is to the latest request, and the others do nothing.  The two
that count do not get in each other's way: one changes the cache, the other the
form, the caret and the toasts.

A toast keeps the instant at which it was shown, and that does depend on the
order.  So consoles are compared after the instants were taken away, by
`Console.undated`.  On such consoles it does not matter when an answer arrives,
and what is left of hearing an answer is the function `Console.heard`.

## Main results

* `Console.heard_comm` — two answers to different requests commute.
* `Console.hearAll_perm` — any number of them may be permuted.
-/

namespace Dashboard

open Webhook (Envelope Form)

namespace Console

/-- The console without the instants at which its toasts were shown. -/
def undated (c : Console) : Console :=
  { c with toasts := c.toasts.map fun t => { t with created := 0 } }

/-- What the console does when answers arrive one after another, each at an
instant of its own. -/
def hearAll (c : Console) : List (Nat × Answer) → Reaction
  | [] => quietly c
  | (now, answer) :: later => andThen (c.update now answer.event) (·.hearAll later)

/-- The console after it heard an answer, at the instant zero. -/
def heard (c : Console) (answer : Answer) : Console := (c.update 0 answer.event).state

theorem heard_superseded {c : Console} {answer : Answer} (late : c.Superseded answer.request) :
    c.heard answer = c :=
  update_superseded 0 late

/-! ## Instants -/

theorem undated_notify (c : Console) (now : Nat) (level : ToastLevel) (message : String) :
    (c.notify now level message).undated = c.undated.notify 0 level message := by
  simp [undated, notify]

/-- Without the instants it does not matter when an answer arrives. -/
theorem undated_update (c : Console) (now : Nat) {answer : Answer} (fetched : answer.Fetched) :
    (c.update now answer.event).state.undated = c.undated.heard answer := by
  cases answer with
  | status generation result => rfl
  | settings generation result =>
      show (c.takeSettings now generation result).state.undated =
        (c.undated.takeSettings 0 generation result).state
      obtain ⟨stale, settled⟩ | ⟨e, rfl, rfl, settled⟩ | ⟨e, rfl, rfl, settled⟩ :=
        c.takeSettings_cases now generation result
      · have settled' : (c.undated.takeSettings 0 generation result).state = c.undated :=
          takeSettings_stale 0 result stale
        rw [settled, settled']
      · rw [settled]
        exact (takeSettings_ok c.undated 0 e).symm
      · rw [settled, undated_notify]
        exact (takeSettings_error c.undated 0 e).symm
  | saved result => exact absurd rfl fetched

/-! ## Two answers -/

/-- The answer to a request for the status and the answer to a load commute,
whatever they bring. -/
theorem heard_status_settings (c : Console) (asked load : Nat)
    (status : Except ApiError ServerStatus) (settings : Except ApiError Envelope) :
    (c.heard (.status asked status)).heard (.settings load settings) =
      (c.heard (.settings load settings)).heard (.status asked status) := by
  show (({ c with cache := (c.cache.commit asked status).state } : Console).takeSettings 0 load
      settings).state =
    { (c.takeSettings 0 load settings).state with
      cache := ((c.takeSettings 0 load settings).state.cache.commit asked status).state }
  rw [takeSettings_withCache, takeSettings_cache]

/-- **Answers to different requests commute.** -/
theorem heard_comm (c : Console) {first second : Answer} (fetched : first.Fetched)
    (fetched' : second.Fetched) (apart : first.request ≠ second.request) :
    (c.heard first).heard second = (c.heard second).heard first := by
  by_cases late : c.Superseded first.request
  · have stays : (c.heard second).Superseded first.request :=
      (superseded_update 0 fetched' first.request).2 late
    rw [heard_superseded late, heard_superseded stays]
  by_cases late' : c.Superseded second.request
  · have stays : (c.heard first).Superseded second.request :=
      (superseded_update 0 fetched second.request).2 late'
    rw [heard_superseded late', heard_superseded stays]
  -- Both requests are the latest of their kind, so they are not of one kind.
  cases first with
  | status asked status =>
      cases second with
      | status asked' status' => simp_all [Superseded, Answer.request]
      | settings load settings => exact c.heard_status_settings asked load status settings
      | saved result => exact absurd rfl fetched'
  | settings load settings =>
      cases second with
      | status asked status => exact (c.heard_status_settings asked load status settings).symm
      | settings load' settings' => simp_all [Superseded, Answer.request]
      | saved result => exact absurd rfl fetched'
  | saved result => exact absurd rfl fetched

/-! ## Any number of answers -/

theorem jobs_hearAll (c : Console) {answers : List (Nat × Answer)}
    (fetched : ∀ answer ∈ answers, answer.2.Fetched) : (c.hearAll answers).value = [] := by
  induction answers generalizing c with
  | nil => rfl
  | cons head later ih =>
      obtain ⟨now, answer⟩ := head
      have none : (c.update now answer.event).value = [] :=
        jobs_of_fetched now (fetched _ List.mem_cons_self)
      have later := ih (c.update now answer.event).state fun answer hmem =>
        fetched answer (List.mem_cons_of_mem _ hmem)
      simp [hearAll, andThen, none, later]

/-- Without the instants, answers are heard one by one. -/
theorem undated_hearAll (c : Console) {answers : List (Nat × Answer)}
    (fetched : ∀ answer ∈ answers, answer.2.Fetched) :
    (c.hearAll answers).state.undated = (answers.map Prod.snd).foldl heard c.undated := by
  induction answers generalizing c with
  | nil => rfl
  | cons head later ih =>
      obtain ⟨now, answer⟩ := head
      have first := c.undated_update now (fetched _ List.mem_cons_self)
      have others := ih (c.update now answer.event).state fun answer hmem =>
        fetched answer (List.mem_cons_of_mem _ hmem)
      rw [List.map_cons, List.foldl_cons, ← first]
      exact others

/-- **The order of answers does not matter.**  If answers to requests for the
status and to loads, no two of them to the same request, arrive in two orders
and at any instants, both leave the same console behind, apart from the instants
at which its toasts were shown, and neither leads to a job. -/
theorem hearAll_perm (c : Console) {answers answers' : List (Nat × Answer)}
    (fetched : ∀ answer ∈ answers, answer.2.Fetched)
    (distinct : (answers.map fun answer => answer.2.request).Nodup)
    (perm : (answers.map Prod.snd).Perm (answers'.map Prod.snd)) :
    (c.hearAll answers).state.undated = (c.hearAll answers').state.undated ∧
      (c.hearAll answers).value = [] ∧ (c.hearAll answers').value = [] := by
  have fetched_of_mem : ∀ answer ∈ answers.map Prod.snd, answer.Fetched := by
    intro answer hmem
    obtain ⟨pair, hpair, rfl⟩ := List.mem_map.1 hmem
    exact fetched pair hpair
  have fetched' : ∀ answer ∈ answers', answer.2.Fetched := by
    intro answer hmem
    exact fetched_of_mem _ (perm.mem_iff.2 (List.mem_map_of_mem hmem))
  have requests : ((answers.map Prod.snd).map Answer.request).Nodup := by
    rw [List.map_map]
    exact distinct
  refine ⟨?_, c.jobs_hearAll fetched, c.jobs_hearAll fetched'⟩
  rw [undated_hearAll c fetched, undated_hearAll c fetched']
  apply perm.foldl_eq'
  intro first hfirst second hsecond current
  by_cases same : first = second
  · rw [same]
  · refine current.heard_comm (fetched_of_mem first hfirst) (fetched_of_mem second hsecond) ?_
    intro request
    exact same (List.inj_on_of_nodup_map requests hfirst hsecond request)

/-- Four answers arrive in two orders.  The latest load has failed, so the order
shows in the instant of the toast, and in nothing else. -/
theorem hearAll_perm_failing : ∃ (c : Console) (answers answers' : List (Nat × Answer)),
    (∀ answer ∈ answers, answer.2.Fetched) ∧
    (answers.map fun answer => answer.2.request).Nodup ∧
    (answers.map Prod.snd).Perm (answers'.map Prod.snd) ∧
    (c.hearAll answers).state ≠ (c.hearAll answers').state ∧
    (c.hearAll answers).state.undated = (c.hearAll answers').state.undated := by
  let c : Console :=
    { Console.new ⟨.nan, .nan⟩ true with
      cache := { StatusCache.new with loading := true, generation := 2, inFlight := some 2 }
      form := { Form.new with loading := true, latestLoad := 2 } }
  let late : Answer := .status 1 (.error .keyMissing)
  let fresh : Answer := .status 2 (.ok ⟨true, true, ⟨true, true, true, true, true⟩⟩)
  let old : Answer := .settings 1 (.ok Envelope.empty)
  let failed : Answer := .settings 2 (.error .keyMissing)
  have fetched : ∀ answer ∈ [(0, late), (10, fresh), (20, old), (30, failed)],
      answer.2.Fetched := by
    simp [Answer.Fetched, Answer.request, late, fresh, old, failed]
  have distinct : ([(0, late), (10, fresh), (20, old), (30, failed)].map
      fun answer => answer.2.request).Nodup := by decide
  have perm : ([(0, late), (10, fresh), (20, old), (30, failed)].map Prod.snd).Perm
      ([(40, failed), (50, old), (60, fresh), (70, late)].map Prod.snd) :=
    (List.reverse_perm _).symm
  exact ⟨c, _, _, fetched, distinct, perm, by decide +kernel,
    (c.hearAll_perm fetched distinct perm).1⟩

end Console

end Dashboard
