import Dashboard.ApiError
import Dashboard.ServerStatus

/-!
# The status cache

The latest answer to the question for the server status, and the requests
that ask for it.

## How requests are withdrawn

Each refresh issues a request with the next number, its **generation**, and
withdraws the one before it if that is still in flight. A request also
counts as withdrawn once the cache is closed, even if it is issued later.
Who runs a request asks `StatusCache.isWithdrawn` for its generation; an
answer that arrives all the same is dropped by `StatusCache.commit`, which
takes only the latest.

## Main definitions

* `StatusCache` — the answer, and the requests by their generations.
* `StatusCache.refresh`, `StatusCache.commit`, `StatusCache.close`.
* `StatusCache.isWithdrawn` — whether a request was withdrawn.
-/

namespace Dashboard

/-- The latest answer and the requests for it. -/
structure StatusCache where
  status : Option ServerStatus
  loading : Bool
  /-- Why the latest request gave no status. -/
  problem : Option String
  /-- The generation of the latest request, zero before the first. -/
  generation : Nat
  /-- The request that a refresh would withdraw. -/
  inFlight : Option Nat
  /-- The requests that refreshes have withdrawn. -/
  superseded : List Nat
  /-- Whether all requests are withdrawn, past and future ones. -/
  closed : Bool
  deriving DecidableEq

namespace StatusCache

/-- Nothing was asked for yet. -/
def new : StatusCache := ⟨none, false, none, 0, none, [], false⟩

instance : Inhabited StatusCache := ⟨new⟩

/-- Whether the request of a generation was withdrawn. -/
def isWithdrawn (c : StatusCache) (generation : Nat) : Bool :=
  c.closed || c.superseded.contains generation

/-- Whether each request that was issued is withdrawn, in the order of their
generations. -/
def withdrawals (c : StatusCache) : List Bool :=
  (List.range c.generation).map fun i => c.isWithdrawn (i + 1)

/-- Issues a request, whose generation is the `generation` of the cache
after it, and withdraws the one before it. -/
def refresh (c : StatusCache) : StatusCache :=
  { c with
    generation := c.generation + 1
    loading := true
    problem := none
    inFlight := some (c.generation + 1)
    superseded := c.inFlight.toList ++ c.superseded }

/-- The line logged for an answer that is not to the latest request. -/
def staleLine (generation latest : Nat) : LogLine :=
  ⟨.debug, "discarding stale public config result",
    [("generation", toString generation), ("latest", toString latest)]⟩

/-- The line logged for a request that failed. -/
def failureLine (e : ApiError) : LogLine :=
  ⟨.warn, "public config fetch failed", [e.statusField, e.errorField]⟩

/-- Takes an answer, unless a newer request was issued; says whether it was
taken. -/
def commit (c : StatusCache) (generation : Nat) (result : Except ApiError ServerStatus) :
    Outcome StatusCache Bool :=
  if generation ≠ c.generation then ⟨c, false, [staleLine generation c.generation]⟩
  else
    let settled := { c with inFlight := none, loading := false }
    match result with
    | .ok status => .silent { settled with status := some status, problem := none } true
    | .error e =>
      ⟨{ settled with status := none, problem := some e.describe }, true, [failureLine e]⟩

/-- Withdraws all requests, those issued later too. -/
def close (c : StatusCache) : StatusCache := { c with closed := true, inFlight := none }

end StatusCache

end Dashboard
