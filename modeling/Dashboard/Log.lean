/-!
# The log

What the dashboard writes to its log. A function that logs returns the lines
along with its result, so a caller sees all that happened.

## Main definitions

* `LogLine` — one line, with its fields, and `LogLine.render`.
* `Outcome` — a state, a value and the lines logged on the way.
-/

namespace Dashboard

/-- How much a line matters. -/
inductive LogLevel where
  | debug
  | info
  | warn
  | error
  deriving DecidableEq

/-- The name of a level. -/
def LogLevel.name : LogLevel → String
  | .debug => "DEBUG"
  | .info => "INFO"
  | .warn => "WARN"
  | .error => "ERROR"

/-- A line of the log: a message and named fields. -/
structure LogLine where
  level : LogLevel
  message : String
  fields : List (String × String)
  deriving DecidableEq

/-- The text of a line. -/
def LogLine.render (l : LogLine) : String :=
  " ".intercalate (l.level.name :: l.message :: l.fields.map fun f => f.1 ++ "=" ++ f.2)

/-- What an operation leaves behind: the state after it, what it answers,
and the lines it logged. -/
structure Outcome (σ α : Type) where
  state : σ
  value : α
  log : List LogLine

/-- An operation that logs nothing. -/
def Outcome.silent {σ α : Type} (state : σ) (value : α) : Outcome σ α := ⟨state, value, []⟩

end Dashboard
