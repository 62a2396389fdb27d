import Dashboard.Proofs.EnvelopeFormat
import Dashboard.Proofs.World

/-!
# What comes back after a save

A save stores three values and leaves the rest of the settings alone, and what the
environment falls back to as well.  So the URLs that are loaded next are the ones that
were saved, with one exception: a URL that was saved empty counts as missing, and the
fallback stands in for it if there is one.

A URL that was loaded and is saved again is no such exception.  It is empty only where
the fallback is empty, too, or missing.

## Main definitions

* `Envelope.setting?`, `Envelope.environment?` — what is written for a key.
* `Envelope.Replaced` — three values were replaced, and nothing else was.

## Main results

* `Envelope.replaced_store` — a save replaces the three values.
* `Envelope.resolve_after_save` — what comes back, and that saving what was loaded
  changes nothing.
-/

namespace Dashboard

/-! ## Looking up -/

namespace Json

variable {α : Type} {key : String}

/-- What is written later hides what was written before. -/
theorem lookup?_append (members others : List (String × α)) :
    lookup? key (members ++ others) = (lookup? key others).or (lookup? key members) := by
  rw [lookup?, List.reverse_append, List.find?_append, Option.map_or]
  rfl

/-- Members with other keys may be dropped. -/
theorem lookup?_filter {keep : String × α → Bool} {members : List (String × α)}
    (kept : ∀ m ∈ members, m.1 = key → keep m = true) :
    lookup? key (members.filter keep) = lookup? key members := by
  have same : (members.filter keep).filter (·.1 == key) = members.filter (·.1 == key) := by
    rw [List.filter_filter]
    refine List.filter_congr fun m mem => ?_
    cases named : m.1 == key with
    | false => rfl
    | true => exact kept m mem (beq_iff_eq.1 named)
  rw [lookup?, lookup?, ← List.getLast?_filter, ← List.getLast?_filter, same]

end Json

namespace Webhook

/-- Each webhook is found under its own key, -/
theorem Field.lookup?_key {α : Type} (value : Field → α) (f : Field) :
    Json.lookup? f.key (Field.all.map fun g => (g.key, value g)) = some (value f) := by
  cases f <;> rfl

/-- and no webhook is found under another one. -/
theorem Field.lookup?_ne {α : Type} (value : Field → α) {key : String}
    (other : ∀ f : Field, key ≠ f.key) :
    Json.lookup? key (Field.all.map fun g => (g.key, value g)) = none := by
  have absent (f : Field) : (f.key == key) = false := beq_false_of_ne (other f).symm
  simp [Json.lookup?, Field.all, absent]

namespace Envelope

/-- What the settings have for a key: no entry, an entry that is null, or a setting. -/
def setting? (e : Envelope) (key : String) : Option (Option Setting) :=
  e.settings.bind (Json.lookup? key)

/-- What the environment has for a key: no entry, an entry that is null, or a text. -/
def environment? (e : Envelope) (key : String) : Option (Option String) :=
  e.fallbacks.bind (Json.lookup? key)

/-- The settings have these URLs as the values of the webhooks, and are otherwise what
they were before. -/
structure Replaced (e : Envelope) (urls : Urls) (e' : Envelope) : Prop where
  webhooks (f : Field) : e'.setting? f.key = some (some ⟨some (urls.get f)⟩)
  others (key : String) : (∀ f : Field, key ≠ f.key) → e'.setting? key = e.setting? key
  environment (key : String) : e'.environment? key = e.environment? key

variable {e e' : Envelope} {urls : Urls}

theorem setting?_store (e : Envelope) (urls : Urls) (key : String) :
    (e.store urls).setting? key =
      (Json.lookup? key (Field.all.map fun f => (f.key, some ⟨some (urls.get f)⟩))).or
        (Json.lookup? key ((e.settings.getD []).filter fun member =>
          Field.all.all fun f => member.1 != f.key)) :=
  Json.lookup?_append _ _

/-- **A save replaces the values of the webhooks and nothing else.** -/
theorem replaced_store (e : Envelope) (urls : Urls) : e.Replaced urls (e.store urls) where
  webhooks f := by
    rw [setting?_store, Field.lookup?_key, Option.some_or]
  others key other := by
    have kept : ∀ m ∈ e.settings.getD [], m.1 = key →
        (Field.all.all fun f => m.1 != f.key) = true := by
      rintro m - rfl
      exact List.all_eq_true.2 fun f _ => bne_iff_ne.2 (other f)
    rw [setting?_store, Field.lookup?_ne _ other, Option.none_or, Json.lookup?_filter kept]
    cases settings : e.settings with
    | none => rw [setting?, settings]; rfl
    | some members => rw [setting?, settings]; rfl
  environment key := rfl

/-! ## Loading what was saved -/

theorem stored?_of_replaced (replaced : e.Replaced urls e') (f : Field) :
    e'.stored? f.key = some (urls.get f) := by
  show (e'.setting? f.key).join.bind (·.value) = _
  rw [replaced.webhooks]
  rfl

theorem fallback?_of_replaced (replaced : e.Replaced urls e') (key : String) :
    e'.fallback? key = e.fallback? key :=
  congrArg Option.join (replaced.environment key)

/-- What comes back is what was saved, or the fallback for it. -/
theorem resolveField_of_replaced (replaced : e.Replaced urls e') (f : Field) :
    e'.resolveField f =
      if urls.get f ≠ "" then urls.get f else (e.fallback? f.key).getD "" := by
  rw [resolveField_eq, stored?_of_replaced replaced, fallback?_of_replaced replaced]
  rfl

/-- A URL comes back changed just if it was saved empty and the environment has another
one. -/
theorem resolveField_ne_iff (replaced : e.Replaced urls e') (f : Field) :
    e'.resolveField f ≠ urls.get f ↔
      urls.get f = "" ∧ ∃ text, e.fallback? f.key = some text ∧ text ≠ "" := by
  rw [resolveField_of_replaced replaced]
  by_cases empty : urls.get f = ""
  · rw [if_neg (not_not.2 empty), empty]
    cases e.fallback? f.key <;> simp
  · rw [if_pos empty]
    exact iff_of_false (not_not.2 rfl) fun changed => empty changed.1

/-- A loaded URL is empty only where there is no fallback for it. -/
theorem fallback?_of_resolveField {f : Field} (empty : e.resolveField f = "") :
    (e.fallback? f.key).getD "" = "" := by
  rw [resolveField_eq, firstNonempty] at empty
  split at empty
  · next stored => exact absurd empty stored
  · exact empty

/-- So a loaded URL comes back unchanged. -/
theorem resolve_of_replaced_resolve (replaced : e.Replaced e.resolve e') :
    e'.resolve = e.resolve := by
  refine Urls.ext_get fun f => ?_
  have loaded : e.resolve.get f = e.resolveField f := Urls.get_ofFields e.resolveField f
  rw [resolve, Urls.get_ofFields, resolveField_of_replaced replaced, loaded]
  split
  · rfl
  · next empty =>
    rw [not_not] at empty
    rw [empty, fallback?_of_resolveField empty]

/-- **What is loaded after a save is what was saved**, but for a URL that was saved empty:
it is the fallback, if the environment has one.  Where the URLs are saved as they were
loaded, none of them changes. -/
theorem resolve_after_save (e : Envelope) (urls : Urls) :
    e.Replaced urls (e.store urls) ∧
    ∀ e', e.Replaced urls e' →
      (∀ f, e'.resolve.get f =
        if urls.get f ≠ "" then urls.get f else (e.fallback? f.key).getD "") ∧
      (∀ f, e'.resolve.get f ≠ urls.get f ↔
        urls.get f = "" ∧ ∃ text, e.fallback? f.key = some text ∧ text ≠ "") ∧
      (urls = e.resolve → e'.resolve = e.resolve) := by
  refine ⟨e.replaced_store urls, fun e' replaced => ⟨fun f => ?_, fun f => ?_, ?_⟩⟩
  · rw [resolve, Urls.get_ofFields]
    exact resolveField_of_replaced replaced f
  · rw [resolve, Urls.get_ofFields]
    exact resolveField_ne_iff replaced f
  · rintro rfl
    exact resolve_of_replaced_resolve replaced

/-- A URL is cleared and comes back from the environment, beside one that is kept. -/
theorem resolve_after_save_cleared :
    let e : Envelope :=
      ⟨some [("theme", none), (Field.dailyReport.key, some ⟨some "http://stored"⟩)],
        some [(Field.dailyReport.key, some "http://env"), (Field.contentGenerated.key, none)]⟩
    let cleared := e.store ⟨"", "http://new", ""⟩
    cleared.resolve.get .dailyReport = "http://env" ∧
      cleared.resolve.get .contentGenerated = "" ∧
      cleared.resolve.get .contentPublished = "http://new" ∧
      (e.store e.resolve).resolve = e.resolve := by
  intro e cleared
  obtain ⟨replaced, after⟩ := resolve_after_save e ⟨"", "http://new", ""⟩
  obtain ⟨back, -, -⟩ := after cleared replaced
  obtain ⟨again, same⟩ := resolve_after_save e e.resolve
  exact ⟨back .dailyReport, back .contentGenerated, back .contentPublished,
    (same _ again).2.2 rfl⟩

end Envelope

end Webhook

end Dashboard
