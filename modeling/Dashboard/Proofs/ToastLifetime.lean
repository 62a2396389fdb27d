import Dashboard.Console

/-!
# How long toasts stay

A toast goes at the first pruning that finds its time over.  Prunings come whenever
the screen is drawn, so a list of toasts has been pruned many times before anybody
looks at it.  None of this can be seen: what a pruning leaves is decided by the
present instant and by the toasts that were ever shown, as if it were the first one.

## The fact the module rests on

Whose time is over at some instant, its time is over ever after.  An earlier pruning
therefore takes away nothing that a later one would have left.

## Main definitions

* `ToastCall`, `Console.calls` — toasts are shown and pruned, one after another.
* `shownBy` — all toasts that were shown.

## Main results

* `Console.toasts_prune_calls` — what is left by a pruning that is not the first one.
* `Console.live_toasts` — right after a pruning the toasts are those of the last five
  seconds.
-/

namespace Dashboard

/-! ## Time that is over -/

namespace Toast

/-- Whether a toast is younger than five seconds. -/
def isLive (t : Toast) (now : Nat) : Bool := now < t.created + 5_000_000_000

theorem not_isExpired (t : Toast) (now : Nat) : (!t.isExpired now) = t.isLive now := by
  unfold isExpired lifetime isLive
  rw [← decide_not, decide_eq_decide]
  omega

/-- A toast that is young at some instant was young at every earlier one. -/
theorem isLive_earlier {t : Toast} {earlier now : Nat} (order : earlier ≤ now)
    (live : t.isLive now = true) : t.isLive earlier = true := by
  simp only [isLive, decide_eq_true_eq] at live ⊢
  omega

end Toast

/-! ## Calls -/

/-- A toast is shown, or the toasts are pruned, at some instant. -/
inductive ToastCall where
  | notify (now : Nat) (level : ToastLevel) (message : String)
  | prune (now : Nat)

namespace ToastCall

def now : ToastCall → Nat
  | notify now _ _ => now
  | prune now => now

/-- The toast that is shown. -/
def toast? : ToastCall → Option Toast
  | notify now level message => some ⟨level, message, now⟩
  | prune _ => none

theorem created_of_toast? {call : ToastCall} {t : Toast} (shown : call.toast? = some t) :
    t.created = call.now := by
  cases call with
  | notify now level message => cases shown; rfl
  | prune now => cases shown

end ToastCall

/-- All toasts that were shown, the oldest first, whether they are still there or
not. -/
def shownBy (calls : List ToastCall) : List Toast := calls.filterMap ToastCall.toast?

/-- The calls come in the order of their instants. -/
def InTime (calls : List ToastCall) : Prop := calls.Pairwise (·.now ≤ ·.now)

theorem InTime.past {calls : List ToastCall} {now : Nat}
    (inTime : InTime (calls ++ [.prune now])) : ∀ call ∈ calls, call.now ≤ now := by
  intro call hcall
  exact (List.pairwise_append.1 inTime).2.2 call hcall (.prune now) (List.mem_singleton_self _)

namespace Console

def call (c : Console) : ToastCall → Console
  | .notify now level message => c.notify now level message
  | .prune now => c.prune now

/-- One call after another. -/
def calls (c : Console) (calls : List ToastCall) : Console := calls.foldl call c

/-! ## Prunings that nobody sees -/

theorem toasts_prune (c : Console) (now : Nat) :
    (c.prune now).toasts = c.toasts.filter (·.isLive now) :=
  List.filter_congr fun t _ => t.not_isExpired now

/-- What an earlier pruning took away, this one would have taken away too. -/
theorem toasts_prune_prune (c : Console) {earlier now : Nat} (order : earlier ≤ now) :
    ((c.prune earlier).prune now).toasts = (c.prune now).toasts := by
  rw [toasts_prune, toasts_prune, toasts_prune, List.filter_filter]
  refine List.filter_congr fun t _ => ?_
  rw [Bool.and_eq_left_iff_imp]
  exact Toast.isLive_earlier order

/-- **A pruning forgets the prunings before it.**  What is left is what it leaves of
the toasts of the beginning and of all that were shown since. -/
theorem toasts_prune_calls (c : Console) {now : Nat} {calls : List ToastCall}
    (past : ∀ call ∈ calls, call.now ≤ now) :
    ((c.calls calls).prune now).toasts = (c.toasts ++ shownBy calls).filter (·.isLive now) := by
  induction calls generalizing c with
  | nil =>
      rw [shownBy, List.filterMap_nil, List.append_nil]
      exact c.toasts_prune now
  | cons call calls ih =>
      have later := ih (c.call call) fun call hcall => past call (List.mem_cons_of_mem _ hcall)
      show (((c.call call).calls calls).prune now).toasts = _
      rw [later]
      cases call with
      | notify instant level message =>
          show (c.toasts ++ [_] ++ shownBy calls).filter _ =
            (c.toasts ++ (_ :: shownBy calls)).filter _
          rw [List.append_assoc, List.singleton_append]
      | prune earlier =>
          have order : earlier ≤ now := past _ List.mem_cons_self
          show ((c.prune earlier).toasts ++ shownBy calls).filter _ =
            (c.toasts ++ shownBy calls).filter _
          rw [List.filter_append, List.filter_append, ← toasts_prune, ← toasts_prune,
            c.toasts_prune_prune order]

/-- **Toasts live just five seconds.**  Where toasts are shown and pruned in the order
of time, what is there right after a pruning are the toasts of the beginning and all
that were shown since, each once and in this order, as far as they are younger than
five seconds.  None of them comes from the future.  It makes no difference at which
instants the toasts were pruned before. -/
theorem live_toasts (c : Console) {calls : List ToastCall} {now : Nat}
    (inTime : InTime (calls ++ [.prune now])) :
    (c.calls (calls ++ [.prune now])).toasts =
        (c.toasts ++ shownBy calls).filter (fun t => now < t.created + 5_000_000_000) ∧
      (∀ t ∈ shownBy calls, t.created ≤ now) ∧
      ∀ others, InTime (others ++ [.prune now]) → shownBy others = shownBy calls →
        (c.calls (others ++ [.prune now])).toasts = (c.calls (calls ++ [.prune now])).toasts := by
  have left {calls : List ToastCall} (inTime : InTime (calls ++ [.prune now])) :
      (c.calls (calls ++ [.prune now])).toasts =
        (c.toasts ++ shownBy calls).filter (·.isLive now) := by
    have last : c.calls (calls ++ [.prune now]) = (c.calls calls).prune now := List.foldl_append
    rw [last, c.toasts_prune_calls inTime.past]
  refine ⟨left inTime, fun t shown => ?_, fun others inTime' same => ?_⟩
  · obtain ⟨call, hcall, created⟩ := List.mem_filterMap.1 shown
    rw [ToastCall.created_of_toast? created]
    exact inTime.past call hcall
  · rw [left inTime, left inTime', same]

/-- A toast is pruned one nanosecond before its time is over and stays.  Two toasts
that are shown at the instant at which its time is over take its place. -/
theorem live_toasts_at_limit :
    let calls : List ToastCall :=
      [.notify 0 .error "a", .prune 4_999_999_999, .notify 5_000_000_000 .success "b",
        .notify 5_000_000_000 .success "b"]
    InTime (calls ++ [.prune 5_000_000_000]) ∧
      ((new ⟨80, 42⟩ true).calls (calls ++ [.prune 5_000_000_000])).toasts =
        [⟨.success, "b", 5_000_000_000⟩, ⟨.success, "b", 5_000_000_000⟩] := by
  intro calls
  have inTime : InTime (calls ++ [.prune 5_000_000_000]) := by
    unfold InTime
    decide
  refine ⟨inTime, ?_⟩
  rw [(live_toasts _ inTime).1]
  rfl

end Console

end Dashboard
