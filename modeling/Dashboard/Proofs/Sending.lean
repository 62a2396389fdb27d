import Dashboard.Client.Network

/-!
# Where a request ends up

A request is answered at once or sent on to another URL, and so is each request
after it.  The answers that name another URL are passed over; what counts is the one
that does not, and it is reached within a number of steps or not at all.

## The fact the module rests on

Nothing is put into a request on its way but the URL that it goes to and the one that
it comes from.  What holds of the first request and does not depend on these two, and
not on whether a document is still there, holds of each one that is sent.

## Main definitions

* `Client.Answers` — the answer that a request ends up with.

## Main results

* `Client.answer?_eq_some` — which replies are answers.
* `Client.send_outcome_eq_ok` — sending a request gives the answer it ends up with.
* `Client.Answers.unique` — there is one such answer at most.
* `Client.forall_received` — what redirects keep holds of all that is sent.
* `Client.length_received_le` — how many requests are sent at most.
-/

namespace Dashboard.Client

variable {std : Standards} {network : Network} {first : Url} {left n : Nat} {r : Request}
  {a b : Answer}

/-! ## What a reply is read as -/

/-- An answer is the reply itself, where it is final and but for a body that its status
excludes. -/
theorem answer?_eq_some {url : Url} :
    network.answer? n url = some a ↔
      ∃ sent, network.reply n url = some (.answer sent) ∧ isFinal sent.status = true ∧
        a = { sent with body := if isBodiless sent.status then .whole [] else sent.body } := by
  rw [Network.answer?, Option.bind_eq_some_iff]
  constructor
  · rintro ⟨reply, replied, read⟩
    cases reply with
    | hangUp => cases read
    | answer sent =>
      rw [Reply.answer?] at read
      split at read
      · next final => exact ⟨sent, replied, final, (Option.some.inj read).symm⟩
      · cases read
  · rintro ⟨sent, replied, final, rfl⟩
    exact ⟨_, replied, if_pos final⟩

/-! ## The answer at the end -/

/-- The answer that a request ends up with, after `n` others and at most `left` more:
its own answer, or that of the request which this one asks for. -/
inductive Answers (std : Standards) (network : Network) :
    Nat → Nat → Request → Answer → Prop
  | here {left n : Nat} {r : Request} {a : Answer} :
      network.answer? n r.url = some a → a.direction std r.url = .stay →
      Answers std network left n r a
  | elsewhere {left n : Nat} {r : Request} {a b : Answer} {url : Url} :
      network.answer? n r.url = some a → a.direction std r.url = .go url → url.isHttp = true →
      Answers std network left (n + 1) (r.redirected a.status url) b →
      Answers std network (left + 1) n r b

/-- A request without an answer ends up with none. -/
theorem not_answers_of_unanswered (unanswered : network.answer? n r.url = none) :
    ¬ Answers std network left n r b := by
  rintro (⟨answered, -⟩ | ⟨answered, -⟩) <;> exact nomatch unanswered.symm.trans answered

/-- The first answer decides which request is the next one. -/
theorem answers_iff (answered : network.answer? n r.url = some a) :
    Answers std network left n r b ↔
      (a.direction std r.url = .stay ∧ a = b) ∨
      ∃ less url, left = less + 1 ∧ a.direction std r.url = .go url ∧ url.isHttp = true ∧
        Answers std network less (n + 1) (r.redirected a.status url) b := by
  constructor
  · intro answers
    cases answers with
    | here again stay =>
      cases answered.symm.trans again
      exact .inl ⟨stay, rfl⟩
    | elsewhere again go http rest =>
      cases answered.symm.trans again
      exact .inr ⟨_, _, rfl, go, http, rest⟩
  · rintro (⟨stay, rfl⟩ | ⟨less, url, rfl, go, http, rest⟩)
    · exact .here answered stay
    · exact .elsewhere answered go http rest

/-- **Sending a request gives the answer that it ends up with.** -/
theorem send_outcome_eq_ok :
    (send std network first left n r).outcome = .ok b ↔ Answers std network left n r b := by
  fun_induction send std network first left n r with
  | case1 left n r unanswered => simp [not_answers_of_unanswered unanswered]
  | case2 left n r a answered stay => simp [answers_iff answered, stay]
  | case3 left n r a answered astray => simp [answers_iff answered, astray]
  | case4 n r a answered url go => simp [answers_iff answered, go]
  | case5 n r a answered url go left http ih =>
    simp [answers_iff answered, go, http, Delivery.after, ih]
  | case6 n r a answered url go left other => simp [answers_iff answered, go, other]

/-- A request ends up with one answer at most. -/
theorem Answers.unique (answers : Answers std network left n r a)
    (again : Answers std network left n r b) : a = b := by
  have sent : (send std network r.url left n r).outcome = .ok a := send_outcome_eq_ok.2 answers
  rw [send_outcome_eq_ok.2 again] at sent
  exact (Except.ok.inj sent).symm

/-- What holds of the first request and is kept by redirects holds of all requests. -/
theorem forall_received {P : Request → Prop} (start : P r)
    (kept : ∀ r status url, P r → P (r.redirected status url)) :
    ∀ sent ∈ (send std network first left n r).received, P sent := by
  fun_induction send std network first left n r with
  | case1 left n r unanswered =>
    intro sent mem
    split at mem
    · exact List.mem_singleton.1 mem ▸ start
    · cases mem
  | case2 | case3 | case4 | case6 =>
    intro sent mem
    exact List.mem_singleton.1 mem ▸ start
  | case5 n r a answered url go left http ih =>
    intro sent mem
    rcases List.mem_cons.1 mem with rfl | later
    · exact start
    · exact ih (kept r a.status url start) sent later

/-- A request goes elsewhere no more often than it may. -/
theorem length_received_le : (send std network first left n r).received.length ≤ left + 1 := by
  fun_induction send std network first left n r with
  | case1 left n r unanswered =>
    split
    · exact Nat.le_add_left 1 left
    · exact Nat.zero_le _
  | case2 left | case3 left => exact Nat.le_add_left 1 left
  | case4 | case6 => exact Nat.le_add_left 1 _
  | case5 n r a answered url go left http ih => exact Nat.succ_le_succ ih

/-- The first request that reaches anybody is the one that was to be sent. -/
theorem eq_of_head?_received {sent : Request}
    (received : (send std network first left n r).received.head? = some sent) : sent = r := by
  fun_induction send std network first left n r with
  | case1 left n r unanswered =>
    split at received
    · exact (Option.some.inj received).symm
    · cases received
  | case2 | case3 | case4 | case5 | case6 => exact (Option.some.inj received).symm

end Dashboard.Client
