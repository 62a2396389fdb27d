import Dashboard.Binary64.Literal

/-!
# Dollar amounts

An amount is typed as a decimal literal and must be finite and not negative
once it is rounded. A negative zero is not negative.

## Main definitions

* `Amount.read` — the amount written by a text, or why there is none.
-/

namespace Dashboard.Amount

/-- Why a text is not an amount. -/
inductive Refusal where
  | empty
  | notALiteral
  | outOfRange (text : String)
  deriving DecidableEq

/-- The wording of a refusal. -/
def Refusal.describe : Refusal → String
  | .empty => "cannot parse float from empty string"
  | .notALiteral => "invalid float literal"
  | .outOfRange text => text ++ " is not a valid dollar amount"

/-- The amount written by a text. -/
def read (text : String) : Except Refusal Binary64 :=
  if text = "" then .error .empty
  else match Binary64.read? text with
    | none => .error .notALiteral
    | some x => if !x.isFinite ∨ x < 0 then .error (.outOfRange text) else .ok x

end Dashboard.Amount
