/-!
# The webhooks

The backend calls up to three webhooks, each for an event of its own.

## Main definitions

* `Webhook.Field` — the three webhooks, in the order in which they are shown.
* `Webhook.Urls` — a URL for each; an empty text means none.
-/

namespace Dashboard.Webhook

/-- The webhooks, named for the events that trigger them. -/
inductive Field where
  | contentGenerated
  | contentPublished
  | dailyReport
  deriving DecidableEq

namespace Field

/-- All webhooks, in the order in which they are shown. -/
def all : List Field := [.contentGenerated, .contentPublished, .dailyReport]

/-- The name the backend has for the setting. -/
def key : Field → String
  | .contentGenerated => "webhook_content_generated_url"
  | .contentPublished => "webhook_content_published_url"
  | .dailyReport => "webhook_daily_report_url"

/-- The name that is shown. -/
def label : Field → String
  | .contentGenerated => "Content Generated Webhook"
  | .contentPublished => "Content Published Webhook"
  | .dailyReport => "Daily Report Webhook"

/-- When the webhook is called. -/
def hint : Field → String
  | .contentGenerated => "Triggered when new content is created"
  | .contentPublished => "Triggered when content is published to a platform"
  | .dailyReport => "Triggered once per day with usage summary"

/-- The webhook below, and the first below the last. -/
def next : Field → Field
  | .contentGenerated => .contentPublished
  | .contentPublished => .dailyReport
  | .dailyReport => .contentGenerated

/-- The webhook above, and the last above the first. -/
def previous : Field → Field
  | .contentGenerated => .dailyReport
  | .contentPublished => .contentGenerated
  | .dailyReport => .contentPublished

@[simp] theorem previous_next (f : Field) : f.next.previous = f := by cases f <;> rfl

@[simp] theorem next_previous (f : Field) : f.previous.next = f := by cases f <;> rfl

theorem mem_all (f : Field) : f ∈ all := by cases f <;> simp [all]

end Field

/-- A URL for each webhook; an empty text means that there is none. -/
@[ext]
structure Urls where
  contentGenerated : String
  contentPublished : String
  dailyReport : String
  deriving DecidableEq

namespace Urls

/-- No webhook has a URL. -/
def empty : Urls := ⟨"", "", ""⟩

instance : Inhabited Urls := ⟨empty⟩

/-- The URL of a webhook. -/
def get (u : Urls) : Field → String
  | .contentGenerated => u.contentGenerated
  | .contentPublished => u.contentPublished
  | .dailyReport => u.dailyReport

/-- The URLs with another one for one webhook. -/
def set (u : Urls) (f : Field) (text : String) : Urls :=
  match f with
  | .contentGenerated => ⟨text, u.contentPublished, u.dailyReport⟩
  | .contentPublished => ⟨u.contentGenerated, text, u.dailyReport⟩
  | .dailyReport => ⟨u.contentGenerated, u.contentPublished, text⟩

/-- The URLs that a function gives. -/
def ofFields (url : Field → String) : Urls :=
  ⟨url .contentGenerated, url .contentPublished, url .dailyReport⟩

@[simp] theorem get_set_self (u : Urls) (f : Field) (t : String) : (u.set f t).get f = t := by
  cases f <;> rfl

theorem get_set_ne (u : Urls) {f g : Field} (t : String) (h : g ≠ f) :
    (u.set f t).get g = u.get g := by
  cases f <;> cases g <;> first | rfl | exact absurd rfl h

theorem set_get (u : Urls) (f : Field) : u.set f (u.get f) = u := by cases f <;> rfl

theorem set_set (u : Urls) (f : Field) (s t : String) : (u.set f s).set f t = u.set f t := by
  cases f <;> rfl

@[simp] theorem get_ofFields (url : Field → String) (f : Field) : (ofFields url).get f = url f := by
  cases f <;> rfl

theorem ext_get {u v : Urls} (h : ∀ f, u.get f = v.get f) : u = v :=
  Urls.ext (h .contentGenerated) (h .contentPublished) (h .dailyReport)

end Urls

end Dashboard.Webhook
