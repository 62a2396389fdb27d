import Dashboard.Binary64

/-!
# The monthly budget

How much of the budget is spent, how serious that is, and what the
dashboard says about it.

## Main definitions

* `Budget.usagePercent`, `Budget.remaining`, `Budget.severity`.
* `Severity.ofPercent` — the thresholds, 80 and 95 percent inclusive.
* `Budget.gaugeRatio` — the filled part of the gauge.
* `costBreakdown`, `usageTips` — fixed texts beside the gauge.
-/

namespace Dashboard

/-! ## Severity -/

/-- How close spending is to the budget. -/
inductive Severity where
  | normal
  | warning
  | critical
  deriving DecidableEq

namespace Severity

/-- The severity of a percentage of the budget. -/
def ofPercent (percent : Binary64) : Severity :=
  if 95 ≤ percent then .critical else if 80 ≤ percent then .warning else .normal

/-- The headline of the alert; nothing is said while spending is normal. -/
def headline? : Severity → Option String
  | .normal => none
  | .warning => some "Approaching Budget Limit"
  | .critical => some "Budget Almost Depleted"

/-- The text of the alert. -/
def message? : Severity → Option String
  | .normal => none
  | .warning => some
      "You're using more than 80% of your monthly budget. Monitor your usage carefully."
  | .critical => some
      "You've used nearly all of your monthly budget. Consider upgrading or reducing usage."

end Severity

/-! ## The budget -/

/-- The budget of a month and what was spent of it. -/
structure Budget where
  monthly : Binary64
  usage : Binary64
  deriving DecidableEq

namespace Budget

/-- The share of the budget that is spent, in percent. Without a budget, and
where the quotient or the product is not finite, it is zero. -/
def usagePercent (b : Budget) : Binary64 :=
  if b.monthly ≤ 0 then 0
  else
    let percent := b.usage / b.monthly * 100
    if percent.isFinite then percent else 0

/-- What is left of the budget. -/
def remaining (b : Budget) : Binary64 := b.monthly - b.usage

/-- How serious the spending is. -/
def severity (b : Budget) : Severity := Severity.ofPercent b.usagePercent

/-- The filled part of the gauge, between zero and one. -/
def gaugeRatio (b : Budget) : Binary64 := Binary64.clamp 0 1 (b.usagePercent / 100)

end Budget

/-! ## Fixed texts -/

/-- One line of the cost breakdown. -/
structure CostItem where
  name : String
  /-- Dollars per month. -/
  cost : Nat
  /-- Share of all costs, in percent. -/
  percent : Nat

/-- Where the money goes. -/
def costBreakdown : List CostItem :=
  [⟨"AI Usage (GPT-4)", 28, 67⟩, ⟨"Server & Hosting", 10, 24⟩, ⟨"Database Storage", 4, 9⟩]

/-- How to spend less. -/
def usageTips : List String :=
  ["Enable Redis caching to reduce AI costs by 30-50%",
   "Generate content in batches to optimize API usage",
   "Use shorter content lengths when appropriate to reduce costs",
   "Review and edit generated content before publishing to maintain quality",
   "Set up webhooks to automate your workflow with Zapier or Make"]

end Dashboard
