/-!
# Toasts

Short messages that stay on the screen for a while. Instants are counted in
nanoseconds.

## Main definitions

* `Toast`, `Toast.isExpired` — a message and when it goes.
-/

namespace Dashboard

/-- What kind of news a toast brings. -/
inductive ToastLevel where
  | success
  | warning
  | error
  deriving DecidableEq

/-- A message and the instant at which it was shown. -/
structure Toast where
  level : ToastLevel
  message : String
  created : Nat
  deriving DecidableEq

namespace Toast

/-- How long a toast stays, in nanoseconds. -/
def lifetime : Nat := 5_000_000_000

/-- Whether the time of a toast is over. A toast from the future has the age
zero. -/
def isExpired (t : Toast) (now : Nat) : Bool := lifetime ≤ now - t.created

end Toast

end Dashboard
