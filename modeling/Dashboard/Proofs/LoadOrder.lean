import Dashboard.Proofs.InFlight

/-!
# Loads are applied in the order of their issue

Any number of loads may be in flight, and their answers may come in any order.
Loads are numbered as they are issued, and an answer is applied only while its
load is the one issued last.  So the loads that are applied are a subsequence
of those that are issued: none is applied twice, and none after a newer one.

A number is never larger than the count of the steps, so a counter of 64 bits
does not overflow in fewer than `2 ^ 64` of them.

## Main results

* `Run.loads_numbered` — loads are numbered without a gap.
* `Run.applied_sublist` — applied loads are a subsequence of issued ones.
* `Run.applies_in_issue_order` — both, and what an application leaves behind.
-/

namespace Dashboard

open Webhook (Envelope)

/-! ## Issued loads -/

theorem Step.numbers_loads : Step.Numbers Job.load? fun w => w.desk.form.latestLoad :=
  fun step => step.effect.latestLoad_cases

theorem Run.loads_numbered {o : Origin} {history : List Transition} {w : World}
    (run : Run o history w) :
    loads history = (List.range' 1 w.desk.form.latestLoad).reverse ∧
      w.desk.form.latestLoad ≤ history.length :=
  run.numbered Step.numbers_loads rfl

theorem Run.loads_pairwise {o : Origin} {history : List Transition} {w : World}
    (run : Run o history w) : (loads history).Pairwise (· > ·) := by
  rw [run.loads_numbered.1, List.pairwise_reverse]
  exact List.pairwise_lt_range'

theorem Run.le_length_of_mem_loads {o : Origin} {history : List Transition} {w : World}
    (run : Run o history w) {generation : Nat} (issued : generation ∈ loads history) :
    generation ≤ history.length := by
  obtain ⟨listed, bound⟩ := run.loads_numbered
  rw [listed, List.mem_reverse, List.mem_range'_1] at issued
  omega

/-! ## Applied loads -/

/-- The load whose settings became the working copy. -/
def Transition.applied? (t : Transition) : Option Nat :=
  match t.move with
  | .deliver (.settings generation result) =>
    match (t.source.console.form.finishLoad generation result).value with
    | .applied => some generation
    | .failed _ | .stale => none
  | _ => none

theorem Transition.applied?_eq_some {t : Transition} {generation : Nat} :
    t.applied? = some generation ↔ ∃ e, t.Applies generation e := by
  constructor
  · intro applied
    unfold applied? at applied
    split at applied
    · next g result arrived =>
        split at applied
        · next ending =>
            cases applied
            obtain ⟨_, e, rfl⟩ := Webhook.Form.value_finishLoad_eq_applied.1 ending
            exact ⟨e, arrived, ending⟩
        · cases applied
        · cases applied
    · cases applied
  · rintro ⟨e, arrived, ending⟩
    simp only [applied?, arrived, ending]

/-- The generations of the loads that were applied, the newest first. -/
def applied (history : List Transition) : List Nat := history.filterMap Transition.applied?

theorem mem_applied {history : List Transition} {generation : Nat} :
    generation ∈ applied history ↔ ∃ t ∈ history, ∃ e, t.Applies generation e := by
  simp [applied, Transition.applied?_eq_some]

/-- The answer to the latest load does not arrive twice. -/
theorem Run.unanswered {o : Origin} {history : List Transition} {w : World}
    (run : Run o history w) (flying : .load w.desk.form.latestLoad ∈ w.inFlight) :
    ¬ Answered history w.desk.form.latestLoad := by
  intro answered
  have loading := run.tracked.loading_iff.1 flying
  have key : o.hasKey = true := run.hasKey.symm.trans (run.tracked.hasKey loading)
  cases ((run.loading_eq_false_iff key).2 answered).symm.trans loading

/-- A step that applies a load issues none. -/
theorem Step.loads_of_applies {w w' : World} {move : Move} (step : Step w move w')
    {generation : Nat} {e : Envelope}
    (applies : Transition.Applies ⟨w, move, w'⟩ generation e) (history : List Transition) :
    loads (⟨w, move, w'⟩ :: history) = loads history := by
  obtain rfl : move = .deliver (.settings generation (.ok e)) := applies.1
  have silent : Move.jobs w (.deliver (.settings generation (.ok e))) = [] := by
    have effect := step.effect
    generalize w'.desk = d' at effect
    generalize Move.jobs w _ = jobs at effect
    cases effect <;> rfl
  rw [loads, List.flatMap_cons, Transition.jobs, silent]
  rfl

/-- A load that is applied is the one issued last. -/
theorem Run.head?_loads_of_applies {o : Origin} {history : List Transition} {w w' : World}
    {move : Move} (run : Run o history w) (step : Step w move w') {generation : Nat} {e : Envelope}
    (applies : Transition.Applies ⟨w, move, w'⟩ generation e) :
    (loads history).head? = some generation := by
  obtain rfl : generation = w.desk.form.latestLoad := applies.latest
  obtain rfl := applies.1
  exact run.head?_loads_of_inFlight (World.request_mem_of_mailbox step.waiting_of_deliver)

/-- A load that is applied was not applied before. -/
theorem Run.not_mem_applied {o : Origin} {history : List Transition} {w w' : World}
    {move : Move} (run : Run o history w) (step : Step w move w') {generation : Nat} {e : Envelope}
    (applies : Transition.Applies ⟨w, move, w'⟩ generation e) : generation ∉ applied history := by
  intro earlier
  obtain ⟨t, ht, e', arrived, _⟩ := mem_applied.1 earlier
  obtain rfl : generation = w.desk.form.latestLoad := applies.latest
  obtain rfl := applies.1
  have flying := World.request_mem_of_mailbox step.waiting_of_deliver
  exact run.unanswered flying ⟨t, ht, _, arrived⟩

/-- **Applied loads are a subsequence of issued ones.** -/
theorem Run.applied_sublist {o : Origin} {history : List Transition} {w : World}
    (run : Run o history w) : (applied history).Sublist (loads history) := by
  induction run with
  | start => exact List.nil_sublist _
  | @step history w w' move before taken _ ih =>
      by_cases applies : ∃ generation e, Transition.Applies ⟨w, move, w'⟩ generation e
      · obtain ⟨generation, e, applies⟩ := applies
        have now := Transition.applied?_eq_some.2 ⟨e, applies⟩
        have head := before.head?_loads_of_applies taken applies
        have new := before.not_mem_applied taken applies
        -- The step issues nothing, and the load it applies heads the list.
        obtain ⟨rest, listed⟩ := List.head?_eq_some_iff.1 head
        rw [taken.loads_of_applies applies, applied, List.filterMap_cons_some now, listed]
        rw [listed] at ih
        refine List.Sublist.cons_cons _ ?_
        rcases List.sublist_cons_iff.1 ih with older | ⟨_, again, _⟩
        · exact older
        · exact absurd (again ▸ List.mem_cons_self) new
      · have none : Transition.applied? ⟨w, move, w'⟩ = none := by
          rw [Option.eq_none_iff_forall_ne_some]
          intro generation now
          exact applies ⟨generation, Transition.applied?_eq_some.1 now⟩
        rw [applied, List.filterMap_cons_none none]
        exact ih.trans (List.sublist_append_right _ _)

/-- **Loads are applied in the order of their issue.**  The numbers of the loads
grow as they are issued, and the loads that are applied are a subsequence of
them.  A load that is applied is the one issued last, and leaves the settings
that its job ended with; answers that are not applied leave the working copy as
it is. -/
theorem Run.applies_in_issue_order {o : Origin} {history : List Transition} {w : World}
    (run : Run o history w) :
    (loads history).Pairwise (· > ·) ∧
      (∀ generation ∈ loads history, generation ≤ history.length) ∧
      (applied history).Sublist (loads history) ∧ (applied history).Pairwise (· > ·) ∧
      (∀ newer t older, history = newer ++ t :: older → ∀ generation e, t.Applies generation e →
        (loads older).head? = some generation ∧
          (∃ u ∈ older, u.move = .finish (.settings generation (.ok e))) ∧
          t.target.console.form.urls = e.resolve) ∧
      ∀ t ∈ history, ∀ generation result, t.move = .deliver (.settings generation result) →
        t.applied? = none → t.target.console.form.urls = t.source.console.form.urls := by
  refine ⟨run.loads_pairwise, fun _ => run.le_length_of_mem_loads, run.applied_sublist,
    run.loads_pairwise.sublist run.applied_sublist, ?_, ?_⟩
  · rintro newer t older rfl generation e applies
    cases run.of_append with
    | start => cases applies.1
    | step before taken _ =>
        refine ⟨before.head?_loads_of_applies taken applies, ?_, taken.urls_applied applies⟩
        obtain rfl := applies.1
        exact before.sent_of_mailbox taken.waiting_of_deliver
  · intro t ht generation result arrived dropped
    obtain ⟨newer, older, rfl⟩ := List.append_of_mem ht
    apply run.of_append.head_step.urls_eq
    · rintro f ⟨⟨_, _, pressed⟩, _⟩
      cases arrived.symm.trans pressed
    · intro g e applies
      have now := Transition.applied?_eq_some.2 ⟨e, applies⟩
      cases dropped.symm.trans now

/-- The second load is applied before the first one is answered, and then a
third one is. -/
theorem applies_in_issue_order_overtaken : ∃ history w, Run .sample history w ∧
    loads history = [3, 2, 1] ∧ applied history = [3, 2] ∧
    (applied history).Sublist (loads history) := by
  let stored := Origin.sample.server
  let status : Task := .new (.fetchStatus 1)
  let first : Task := ⟨.fetchSettings 1, .read stored⟩
  let backend : Backend := ⟨none, .ok stored, fun _ => .ok ()⟩
  have run := Run.sampleRead.step (.key (.char 'R') .none) nofun
  have run := run.step (@Step.read _ 2 {first, status} (by decide +kernel)) nofun
  have run := run.step (@Step.finish _ ⟨.fetchSettings 2, .read stored⟩ {first, status} backend
    (.settings 2 (.ok stored)) rfl (fun e same => by cases same; rfl) rfl) nofun
  have run := run.step (@Step.deliver _ (.settings 2 (.ok stored)) 0 rfl) nofun
  have run := run.step (@Step.finish _ first {status} backend
    (.settings 1 (.ok stored)) rfl (fun e same => by cases same; rfl) rfl) nofun
  have run := run.step (@Step.deliver _ (.settings 1 (.ok stored)) 0 rfl) nofun
  have run := run.step (.key (.char 'R') .none) nofun
  have run := run.step (@Step.read _ 3 {status} (by decide +kernel)) nofun
  have run := run.step (@Step.finish _ ⟨.fetchSettings 3, .read stored⟩ {status} backend
    (.settings 3 (.ok stored)) rfl (fun e same => by cases same; rfl) rfl) nofun
  have run := run.step (@Step.deliver _ (.settings 3 (.ok stored)) 0 rfl) nofun
  exact ⟨_, _, run, by decide +kernel, by decide +kernel, run.applies_in_issue_order.2.2.1⟩

end Dashboard
