import Dashboard.Proofs.Withdrawal

/-!
# Tickets and their tokens

The cache knows its requests by their numbers.  Who runs a request does not look
into the cache: it was handed a ticket with a cancellation token, and waits for
the token.  An `Issuer` is a cache that hands out such tickets.  It has a token for
its own lifetime, from which the tokens of all tickets descend, and it holds the
token that the next refresh would cancel.

Tokens come from outside.  A `TokenSupply` is anything that makes and cancels them,
and `TokenSupply.Lawful` lists what is relied on: cancelling a token cancels its
descendants and nothing else, and a child of a cancelled token is born cancelled.

`Issuer.Agrees` relates the tokens to the numbers.  It is kept by every operation,
so a token is cancelled just if the cache says that its request is withdrawn.

## Main definitions

* `TokenSupply`, `TokenSupply.Lawful` — cancellation tokens.
* `Issuer`, `Issuer.after` — a cache with tokens, and what operations make of it.

## Main results

* `Issuer.agrees_after` — tokens and numbers agree.
* `Issuer.cancelled_after` — which tickets are cancelled.
-/

namespace Dashboard

open StatusCache (Accepted Operation SupersededIn)

/-! ## Tokens -/

/-- Where cancellation tokens come from.  A token is looked up in a state that
changes as tokens are made and cancelled. -/
structure TokenSupply (σ τ : Type) where
  /-- A first token. -/
  root : σ × τ
  child : σ → τ → σ × τ
  cancel : σ → τ → σ
  isCancelled : σ → τ → Bool
  /-- The token that a token is a child of. -/
  parent : τ → Option τ
  /-- Whether a token was made. -/
  Made : σ → τ → Prop

namespace TokenSupply

variable {σ τ : Type}

/-- A token descends from itself and from what its parent descends from. -/
inductive Descends (supply : TokenSupply σ τ) (top : τ) : τ → Prop
  | self : Descends supply top top
  | child {token above : τ} (parent : supply.parent token = some above) :
      Descends supply top above → Descends supply top token

/-- What is known about cancellation tokens. -/
structure Lawful (supply : TokenSupply σ τ) : Prop where
  root_made : supply.Made supply.root.1 supply.root.2
  root_parent : supply.parent supply.root.2 = none
  root_open : supply.isCancelled supply.root.1 supply.root.2 = false
  child_made : ∀ {s above}, supply.Made s above →
    supply.Made (supply.child s above).1 (supply.child s above).2
  child_new : ∀ {s above}, ¬ supply.Made s (supply.child s above).2
  child_parent : ∀ {s above}, supply.parent (supply.child s above).2 = some above
  /-- A child of a cancelled token is born cancelled, and no other. -/
  child_born : ∀ {s above}, supply.Made s above →
    supply.isCancelled (supply.child s above).1 (supply.child s above).2 =
      supply.isCancelled s above
  child_keeps : ∀ {s above token}, supply.Made s token →
    supply.Made (supply.child s above).1 token ∧
      supply.isCancelled (supply.child s above).1 token = supply.isCancelled s token
  cancel_keeps : ∀ {s top token}, supply.Made s token → supply.Made (supply.cancel s top) token
  /-- Cancelling a token cancels its descendants, and nothing else. -/
  cancel_iff : ∀ {s top token}, supply.Made s top → supply.Made s token →
    (supply.isCancelled (supply.cancel s top) token = true ↔
      supply.isCancelled s token = true ∨ supply.Descends top token)

variable {supply : TokenSupply σ τ} {top token : τ}

theorem descends_of_parent_none (orphan : supply.parent token = none) :
    supply.Descends top token ↔ token = top := by
  constructor
  · rintro (_ | ⟨parent, _⟩)
    · rfl
    · cases orphan.symm.trans parent
  · rintro rfl
    exact .self

theorem descends_of_parent {above : τ} (parent : supply.parent token = some above) :
    supply.Descends top token ↔ token = top ∨ supply.Descends top above := by
  constructor
  · rintro (_ | ⟨other, descends⟩)
    · exact .inl rfl
    · cases parent.symm.trans other
      exact .inr descends
  · rintro (rfl | descends)
    · exact .self
    · exact .child parent descends

end TokenSupply

/-! ## Issuers -/

/-- What is handed out for a request. -/
structure Ticket (τ : Type) where
  generation : Nat
  token : τ

/-- A cache that hands out tickets. -/
structure Issuer (σ τ : Type) where
  cache : StatusCache
  /-- The state of the tokens. -/
  tokens : σ
  /-- The token that all others descend from. -/
  lifetime : τ
  /-- The token that a refresh would cancel. -/
  held : Option τ
  /-- All tickets that were handed out, the newest first. -/
  tickets : List (Ticket τ)

namespace Issuer

section Operations

variable {σ τ : Type} (supply : TokenSupply σ τ)

def new : Issuer σ τ := ⟨.new, supply.root.1, supply.root.2, none, []⟩

/-- The tokens after the one that is held was cancelled. -/
def silenced (i : Issuer σ τ) : σ := i.held.elim i.tokens (supply.cancel i.tokens)

/-- Cancels the token that is held, and hands out a ticket with a new one. -/
def refresh (i : Issuer σ τ) : Issuer σ τ :=
  let (tokens, token) := supply.child (i.silenced supply) i.lifetime
  { i with
    cache := i.cache.refresh
    tokens := tokens
    held := some token
    tickets := ⟨i.cache.refresh.generation, token⟩ :: i.tickets }

/-- Takes an answer; the token is let go if the answer is taken. -/
def commit (i : Issuer σ τ) (generation : Nat) (result : Except ApiError ServerStatus) :
    Issuer σ τ :=
  let taken := i.cache.commit generation result
  { i with cache := taken.state, held := if taken.value then none else i.held }

/-- Cancels the token of the lifetime, and so all tokens of all times. -/
def close (i : Issuer σ τ) : Issuer σ τ :=
  { i with cache := i.cache.close, tokens := supply.cancel i.tokens i.lifetime, held := none }

def apply (i : Issuer σ τ) : Operation → Issuer σ τ
  | .refresh => i.refresh supply
  | .commit generation result => i.commit generation result
  | .close => i.close supply

/-- The issuer after these operations on a new one, the newest first. -/
def after : List Operation → Issuer σ τ
  | [] => new supply
  | operation :: older => (after older).apply supply operation

end Operations

variable {σ τ : Type} {supply : TokenSupply σ τ} {i : Issuer σ τ}

/-- The tokens say what the numbers say. -/
structure Agrees (supply : TokenSupply σ τ) (i : Issuer σ τ) : Prop where
  lifetime_made : supply.Made i.tokens i.lifetime
  lifetime_parent : supply.parent i.lifetime = none
  closed : supply.isCancelled i.tokens i.lifetime = i.cache.closed
  numbered : i.tickets.map (·.generation) = (List.range' 1 i.cache.generation).reverse
  made : ∀ t ∈ i.tickets, supply.Made i.tokens t.token
  parent : ∀ t ∈ i.tickets, supply.parent t.token = some i.lifetime
  apart : ∀ t ∈ i.tickets, ∀ u ∈ i.tickets, t.token = u.token ↔ t.generation = u.generation
  held : (i.held = none ∧ i.cache.inFlight = none) ∨
    ∃ t ∈ i.tickets, i.held = some t.token ∧ i.cache.inFlight = some t.generation
  older : ∀ generation ∈ i.cache.superseded, generation ≤ i.cache.generation
  cancelled : ∀ t ∈ i.tickets,
    supply.isCancelled i.tokens t.token = i.cache.isWithdrawn t.generation

theorem agrees_new (lawful : supply.Lawful) : Agrees supply (new supply) where
  lifetime_made := lawful.root_made
  lifetime_parent := lawful.root_parent
  closed := lawful.root_open
  numbered := rfl
  made := nofun
  parent := nofun
  apart := nofun
  held := .inl ⟨rfl, rfl⟩
  older := nofun
  cancelled := nofun

namespace Agrees

theorem generation_bounds (h : i.Agrees supply) {t : Ticket τ} (ht : t ∈ i.tickets) :
    0 < t.generation ∧ t.generation ≤ i.cache.generation := by
  have listed : t.generation ∈ i.tickets.map (·.generation) := List.mem_map_of_mem ht
  rw [h.numbered, List.mem_reverse, List.mem_range'_1] at listed
  omega

theorem inFlight_le (h : i.Agrees supply) {generation : Nat}
    (awaited : i.cache.inFlight = some generation) : generation ≤ i.cache.generation := by
  obtain ⟨_, idle⟩ | ⟨t, ht, _, kept⟩ := h.held
  · cases idle.symm.trans awaited
  · cases kept.symm.trans awaited
    exact (h.generation_bounds ht).2

theorem token_ne_lifetime (h : i.Agrees supply) {t : Ticket τ} (ht : t ∈ i.tickets) :
    i.lifetime ≠ t.token := by
  intro same
  have parent := h.parent t ht
  rw [← same, h.lifetime_parent] at parent
  cases parent

/-- Below the lifetime there is nothing but the tickets, side by side. -/
theorem descends_ticket (h : i.Agrees supply) {t u : Ticket τ} (ht : t ∈ i.tickets)
    (hu : u ∈ i.tickets) : supply.Descends t.token u.token ↔ t.generation = u.generation := by
  rw [TokenSupply.descends_of_parent (h.parent u hu),
    TokenSupply.descends_of_parent_none h.lifetime_parent, eq_comm, h.apart t ht u hu]
  exact or_iff_left (h.token_ne_lifetime ht)

theorem not_descends_lifetime (h : i.Agrees supply) {t : Ticket τ} (ht : t ∈ i.tickets) :
    ¬ supply.Descends t.token i.lifetime := by
  rw [TokenSupply.descends_of_parent_none h.lifetime_parent]
  exact h.token_ne_lifetime ht

/-! ### Refreshing -/

theorem silenced_made (lawful : supply.Lawful) {token : τ} (made : supply.Made i.tokens token) :
    supply.Made (i.silenced supply) token := by
  unfold silenced
  cases i.held with
  | none => exact made
  | some _ => exact lawful.cancel_keeps made

theorem silenced_lifetime (lawful : supply.Lawful) (h : i.Agrees supply) :
    supply.isCancelled (i.silenced supply) i.lifetime = i.cache.closed := by
  unfold silenced
  obtain ⟨empty, _⟩ | ⟨t, ht, held, _⟩ := h.held
  · rw [empty]
    exact h.closed
  · rw [held, Bool.eq_iff_iff]
    show supply.isCancelled (supply.cancel i.tokens t.token) i.lifetime = true ↔ _
    rw [lawful.cancel_iff (h.made t ht) h.lifetime_made,
      or_iff_left (h.not_descends_lifetime ht), h.closed]

/-- The token that is cancelled is that of the request that the cache withdraws. -/
theorem silenced_ticket (lawful : supply.Lawful) (h : i.Agrees supply) {u : Ticket τ}
    (hu : u ∈ i.tickets) :
    supply.isCancelled (i.silenced supply) u.token = i.cache.refresh.isWithdrawn u.generation := by
  rw [Bool.eq_iff_iff, StatusCache.isWithdrawn_refresh, ← h.cancelled u hu]
  unfold silenced
  obtain ⟨empty, idle⟩ | ⟨t, ht, held, awaited⟩ := h.held
  · rw [empty, idle]
    exact (or_iff_left nofun).symm
  · rw [held, awaited, Option.some.injEq, ← h.descends_ticket ht hu]
    exact lawful.cancel_iff (h.made t ht) (h.made u hu)

/-- The request that is issued next is withdrawn from the start if the cache is closed. -/
theorem isWithdrawn_next (h : i.Agrees supply) :
    i.cache.refresh.isWithdrawn (i.cache.generation + 1) = i.cache.closed := by
  rw [Bool.eq_iff_iff, StatusCache.isWithdrawn_refresh, StatusCache.isWithdrawn, Bool.or_eq_true,
    List.contains_iff_mem]
  constructor
  · rintro ((closed | superseded) | awaited)
    · exact closed
    · exact absurd (h.older _ superseded) (Nat.not_succ_le_self _)
    · exact absurd (h.inFlight_le awaited) (Nat.not_succ_le_self _)
  · exact fun closed => .inl (.inl closed)

theorem refresh (lawful : supply.Lawful) (h : i.Agrees supply) :
    (i.refresh supply).Agrees supply := by
  have lifetime_made := silenced_made lawful h.lifetime_made
  have made (t) (ht : t ∈ i.tickets) := silenced_made lawful (h.made t ht)
  have apart (t) (ht : t ∈ i.tickets) :
      t.token ≠ (supply.child (i.silenced supply) i.lifetime).2 := by
    intro same
    exact lawful.child_new (same ▸ made t ht)
  have fresh (t) (ht : t ∈ i.tickets) : t.generation ≠ i.cache.generation + 1 := by
    have := (h.generation_bounds ht).2
    omega
  refine
    { lifetime_made := (lawful.child_keeps lifetime_made).1
      lifetime_parent := h.lifetime_parent
      closed := ?closed
      numbered := ?numbered
      made := ?made
      parent := ?parent
      apart := ?apart
      held := .inr ⟨_, List.mem_cons_self, rfl, rfl⟩
      older := ?older
      cancelled := ?cancelled }
  case closed => exact (lawful.child_keeps lifetime_made).2.trans (h.silenced_lifetime lawful)
  case numbered =>
    show _ :: i.tickets.map (·.generation) = (List.range' 1 (i.cache.generation + 1)).reverse
    rw [h.numbered, List.range'_concat, List.reverse_append]
    simp [StatusCache.refresh, Nat.add_comm]
  case made =>
    rintro t (_ | ⟨_, ht⟩)
    · exact lawful.child_made lifetime_made
    · exact (lawful.child_keeps (made t ht)).1
  case parent =>
    rintro t (_ | ⟨_, ht⟩)
    · exact lawful.child_parent
    · exact h.parent t ht
  case apart =>
    rintro t (_ | ⟨_, ht⟩) u (_ | ⟨_, hu⟩)
    · exact iff_of_true rfl rfl
    · exact iff_of_false (apart u hu).symm (fresh u hu).symm
    · exact iff_of_false (apart t ht) (fresh t ht)
    · exact h.apart t ht u hu
  case older =>
    intro generation superseded
    show generation ≤ i.cache.generation + 1
    rcases List.mem_append.1 superseded with kept | earlier
    · exact Nat.le_succ_of_le (h.inFlight_le (Option.mem_toList.1 kept))
    · exact Nat.le_succ_of_le (h.older generation earlier)
  case cancelled =>
    rintro t (_ | ⟨_, ht⟩)
    · have born := (lawful.child_born lifetime_made).trans (h.silenced_lifetime lawful)
      exact born.trans h.isWithdrawn_next.symm
    · exact (lawful.child_keeps (made t ht)).2.trans (h.silenced_ticket lawful ht)

/-! ### Answers and closing -/

/-- An answer that is taken lets the token go, and changes nothing that the other fields
speak of. -/
theorem commit (h : i.Agrees supply) (generation : Nat) (result : Except ApiError ServerStatus) :
    (i.commit generation result).Agrees supply := by
  by_cases latest : generation = i.cache.generation
  · subst latest
    obtain ⟨_, settled⟩ := i.cache.commit_latest result
    simp only [Issuer.commit, StatusCache.value_commit.2 rfl, settled, if_true]
    exact { h with held := .inl ⟨rfl, rfl⟩ }
  · simp only [Issuer.commit, mt StatusCache.value_commit.1 latest, StatusCache.commit_stale latest]
    exact h

theorem close (lawful : supply.Lawful) (h : i.Agrees supply) : (i.close supply).Agrees supply where
  lifetime_made := lawful.cancel_keeps h.lifetime_made
  lifetime_parent := h.lifetime_parent
  closed := (lawful.cancel_iff h.lifetime_made h.lifetime_made).2 (.inr .self)
  numbered := h.numbered
  made t ht := lawful.cancel_keeps (h.made t ht)
  parent := h.parent
  apart := h.apart
  held := .inl ⟨rfl, rfl⟩
  older := h.older
  cancelled t ht :=
    (lawful.cancel_iff h.lifetime_made (h.made t ht)).2 (.inr (.child (h.parent t ht) .self))

theorem apply (lawful : supply.Lawful) (h : i.Agrees supply) (operation : Operation) :
    (i.apply supply operation).Agrees supply := by
  cases operation with
  | refresh => exact h.refresh lawful
  | commit generation result => exact h.commit generation result
  | close => exact h.close lawful

end Agrees

/-- **Tokens and numbers agree**, after any history. -/
theorem agrees_after (lawful : supply.Lawful) (history : List Operation) :
    (after supply history).Agrees supply := by
  induction history with
  | nil => exact agrees_new lawful
  | cons operation history ih => exact ih.apply lawful operation

/-- An issuer does with its cache what the cache does without tokens. -/
theorem cache_after (supply : TokenSupply σ τ) (history : List Operation) :
    (after supply history).cache = StatusCache.after history := by
  induction history with
  | nil => rfl
  | cons operation history ih =>
      cases operation with
      | refresh => exact congrArg StatusCache.refresh ih
      | commit generation result => exact congrArg (fun c => (c.commit generation result).state) ih
      | close => exact congrArg StatusCache.close ih

/-- **Just the superseded requests are cancelled.**  One ticket is handed out for each
request, and its token says what the cache says of the request.  The token is cancelled
just if the cache was closed, before the ticket was handed out or after, or if a later
request was issued before an answer to this one was taken.  If an answer was taken, only
closing cancels the ticket.  Once the cache was closed all tickets are cancelled, the
later ones too. -/
theorem cancelled_after (lawful : supply.Lawful) (history : List Operation) :
    (after supply history).cache = StatusCache.after history ∧
      (after supply history).tickets.map (·.generation) =
        (List.range' 1 (StatusCache.after history).generation).reverse ∧
      (∀ t ∈ (after supply history).tickets,
        supply.isCancelled (after supply history).tokens t.token =
            (StatusCache.after history).isWithdrawn t.generation ∧
          (supply.isCancelled (after supply history).tokens t.token = true ↔
            .close ∈ history ∨ SupersededIn history t.generation) ∧
          (Accepted history t.generation →
            (supply.isCancelled (after supply history).tokens t.token = true ↔
              .close ∈ history))) ∧
      (.close ∈ history → ∀ newer, ∀ t ∈ (after supply (newer ++ history)).tickets,
        supply.isCancelled (after supply (newer ++ history)).tokens t.token = true) := by
  have withdrawn (history : List Operation) (t) (ht : t ∈ (after supply history).tickets) :
      supply.isCancelled (after supply history).tokens t.token =
        (StatusCache.after history).isWithdrawn t.generation := by
    rw [(agrees_after lawful history).cancelled t ht, cache_after]
  have cancelled (history : List Operation) (t) (ht : t ∈ (after supply history).tickets) :
      supply.isCancelled (after supply history).tokens t.token = true ↔
        .close ∈ history ∨ SupersededIn history t.generation := by
    rw [withdrawn history t ht]
    exact StatusCache.isWithdrawn_after_iff ((agrees_after lawful history).generation_bounds ht).1
  refine ⟨cache_after supply history, ?_,
    fun t ht => ⟨withdrawn history t ht, cancelled history t ht, fun accepted => ?_⟩,
    fun closed newer t ht => ?_⟩
  · rw [(agrees_after lawful history).numbered, cache_after]
  · rw [cancelled history t ht]
    exact or_iff_left fun superseded => (StatusCache.supersededIn_iff.1 superseded).2 accepted
  · exact (cancelled _ t ht).2 (.inl (List.mem_append_right newer closed))

end Issuer

/-! ## A supply -/

/-- Tokens that are paths, each a number in front of the path of its parent, with the
numbers that are still free and the paths that are cancelled. -/
structure Forest where
  next : Nat
  cancelled : List Nat → Bool

namespace Forest

def supply : TokenSupply Forest (List Nat) where
  root := (⟨0, fun _ => false⟩, [])
  child s above :=
    let token := s.next :: above
    (⟨s.next + 1, fun path => s.cancelled (if path = token then above else path)⟩, token)
  cancel s top := { s with cancelled := fun path => s.cancelled path || top.isSuffixOf path }
  isCancelled s path := s.cancelled path
  parent := List.tail?
  Made s path := ∀ n ∈ path, n < s.next

theorem descends_iff {top path : List Nat} : supply.Descends top path ↔ top <:+ path := by
  induction path with
  | nil => rw [TokenSupply.descends_of_parent_none rfl, List.suffix_nil, eq_comm]
  | cons n above ih => rw [TokenSupply.descends_of_parent rfl, ih, List.suffix_cons_iff, eq_comm]

theorem lawful : supply.Lawful where
  root_made := nofun
  root_parent := rfl
  root_open := rfl
  child_made {s above} made := by
    intro n hn
    rcases List.mem_cons.1 hn with rfl | earlier
    · exact Nat.lt_succ_self _
    · exact Nat.lt_succ_of_lt (made n earlier)
  child_new made := Nat.lt_irrefl _ (made _ List.mem_cons_self)
  child_parent := rfl
  child_born {s above} _ := by
    show s.cancelled (if s.next :: above = s.next :: above then above else _) = _
    rw [if_pos rfl]
    rfl
  child_keeps {s above path} made := by
    have other : path ≠ s.next :: above := by
      rintro rfl
      exact Nat.lt_irrefl _ (made _ List.mem_cons_self)
    refine ⟨fun n hn => Nat.lt_succ_of_lt (made n hn), ?_⟩
    show s.cancelled (if path = s.next :: above then above else path) = _
    rw [if_neg other]
    rfl
  cancel_keeps made := made
  cancel_iff {s top path} _ _ := by
    rw [descends_iff, ← List.isSuffixOf_iff_suffix]
    exact Bool.or_eq_true_iff

end Forest

/-- The first of three requests is answered in time and the second is not.  Its ticket
is the only one that is cancelled, until the cache is closed. -/
theorem Issuer.cancelled_after_answered :
    let history : List Operation := [.refresh, .refresh, .commit 1 (.error .keyMissing), .refresh]
    let issuer := after Forest.supply history
    let closed := after Forest.supply ([.refresh] ++ .close :: history)
    Forest.supply.Lawful ∧ Accepted history 1 ∧ .close ∉ history ∧
      issuer.tickets.map (·.generation) = [3, 2, 1] ∧
      (∀ t ∈ issuer.tickets,
        Forest.supply.isCancelled issuer.tokens t.token = true ↔ t.generation = 2) ∧
      closed.tickets.map (·.generation) = [4, 3, 2, 1] ∧
      ∀ t ∈ closed.tickets, Forest.supply.isCancelled closed.tokens t.token = true := by
  intro history issuer closed
  have answered (g : Nat) : Accepted history g ↔ g = 1 := by
    simp only [history, StatusCache.accepted_cons, StatusCache.not_accepted_nil, or_false]
    constructor
    · rintro (⟨_, other, _⟩ | ⟨_, other, _⟩ | ⟨_, ⟨⟩, _⟩ | ⟨_, other, _⟩)
      · cases other
      · cases other
      · rfl
      · cases other
    · rintro rfl
      exact .inr (.inr (.inl ⟨_, rfl, rfl⟩))
  have opened : .close ∉ history := by simp [history]
  obtain ⟨_, numbers, tickets, _⟩ := cancelled_after Forest.lawful history
  obtain ⟨_, _, _, forever⟩ := cancelled_after Forest.lawful (.close :: history)
  refine ⟨Forest.lawful, (answered 1).2 rfl, opened, numbers, fun t ht => ?_, rfl,
    forever List.mem_cons_self [.refresh]⟩
  have issued : t.generation ∈ issuer.tickets.map (·.generation) := List.mem_map_of_mem ht
  rw [numbers] at issued
  have issued : t.generation ∈ [3, 2, 1] := issued
  rw [(tickets t ht).2.1, or_iff_right opened, StatusCache.supersededIn_iff, answered]
  show t.generation < 3 ∧ _ ↔ _
  grind

end Dashboard
