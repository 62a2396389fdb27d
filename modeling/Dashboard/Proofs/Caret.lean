import Dashboard.Proofs.Editor
import Dashboard.Proofs.Offset
import Dashboard.Screen.Panels

/-!
# The caret and the bytes under it

Typing, erasing and drawing the caret each work at a byte of the text.  Whether
they may is a matter of the text and the caret, which are kept apart, and a load
may shorten the text while somebody edits it.

Offsets are never refused, since the offset of a caret past the end is that of
the end.  But there erasing would do nothing, and what is typed would land at the
end while the caret runs away from it.  That the key for erasing always takes away
the character in front of the caret needs the caret to be placed.

## Main definitions

* `Console.insertByte?`, `Console.eraseByte?` — typing and erasing at a byte.

## Main results

* `Console.insertByte?_eq`, `Console.eraseByte?_eq` — no offset is refused.
* `Console.Reached.caret_safe` — where the caret stands in a reached console,
  and what is done there.
-/

namespace Dashboard

open Webhook (Field)

namespace Console

/-- Types a character at the byte at which the caret stands. -/
def insertByte? (c : Console) (char : Char) : Option Console :=
  (Text.insertByte? c.currentText (Text.offset c.currentText c.caret) char).map fun text =>
    { c.setCurrentText text with caret := c.caret + 1 }

/-- Erases the character that begins at the byte at which the caret would stand
one character before, unless that is the end. -/
def eraseByte? (c : Console) : Option Console :=
  if c.caret = 0 then some c
  else
    let byte := Text.offset c.currentText (c.caret - 1)
    if byte < c.currentText.utf8ByteSize then
      (Text.removeByte? c.currentText byte).map fun text =>
        { c.setCurrentText text with caret := c.caret - 1 }
    else some c

theorem insertByte?_eq (c : Console) (char : Char) : c.insertByte? char = some (c.insert char) := by
  rw [insertByte?, Text.insertByte?_offset]
  rfl

theorem eraseByte?_eq (c : Console) : c.eraseByte? = some c.erase := by
  unfold eraseByte? erase
  by_cases front : c.caret = 0
  · rw [if_pos front, if_neg (by omega)]
  rw [if_neg front]
  simp only [Text.offset_lt_iff]
  by_cases room : c.caret - 1 < c.currentText.toList.length
  · have inside : 0 < c.caret ∧ c.caret ≤ c.currentLength := by
      unfold currentLength
      omega
    rw [if_pos room, if_pos inside, Text.removeByte?_offset room]
    rfl
  · have outside : ¬ (0 < c.caret ∧ c.caret ≤ c.currentLength) := by
      unfold currentLength
      omega
    rw [if_neg room, if_neg outside]

/-- The character in front of the caret is taken out of the text, and no other. -/
theorem erase_eq {c : Console} (front : 0 < c.caret) (inside : c.caret ≤ c.currentLength) :
    ∃ before char after, c.currentText.toList = before ++ char :: after ∧
      before.length + 1 = c.caret ∧
      c.erase =
        { c.setCurrentText (String.ofList (before ++ after)) with caret := before.length } := by
  have room : c.caret - 1 < c.currentText.toList.length := by
    unfold currentLength at inside
    omega
  refine ⟨c.currentText.toList.take (c.caret - 1), c.currentText.toList[c.caret - 1],
    c.currentText.toList.drop (c.caret - 1 + 1), ?_, ?_, ?_⟩
  · rw [← List.drop_eq_getElem_cons room, List.take_append_drop]
  · rw [List.length_take_of_le (by omega)]
    omega
  · rw [erase, if_pos ⟨front, inside⟩, List.length_take_of_le (by omega), Text.eraseAt]

theorem erase_of_backspace {c : Console} {f : Field} (editing : c.mode = .editing f) (now : Nat)
    (modifiers : Modifiers) : (c.update now (.key .backspace modifiers)).state = c.erase := by
  simp only [update, editing, editingKey]
  rfl

theorem insert_of_char {c : Console} {f : Field} (editing : c.mode = .editing f) (now : Nat)
    (char : Char) {modifiers : Modifiers} (plain : modifiers.control = false) :
    (c.update now (.key (.char char) modifiers)).state = c.insert char := by
  simp only [update, editing, editingKey, plain]
  rfl

/-- **Whoever edits, edits the selected webhook, and the caret stands inside its
text.**  So it stands where a character begins or ends.  What is typed or erased
at its byte is accepted and leaves what the key leaves, and so does cutting the
text there for the screen.  Erasing takes the one character in front of the caret
out, if there is one. -/
theorem Reached.caret_safe {c : Console} (reached : c.Reached) {f : Field}
    (editing : c.mode = .editing f) :
    let url := c.form.urls.get f
    (f = c.selected ∧ c.caret ≤ url.toList.length) ∧
    (Text.IsBoundary url (Text.offset url c.caret) ∧
      Text.IsBoundary url (Text.offset url (c.caret - 1))) ∧
    (∀ now char modifiers, modifiers.control = false →
      c.insertByte? char = some (c.update now (.key (.char char) modifiers)).state) ∧
    (∀ now modifiers, c.eraseByte? = some (c.update now (.key .backspace modifiers)).state) ∧
    ((Text.splitByte? url (Text.offset url c.caret)).map fun (before, after) =>
        [⟨"  ", .none⟩, ⟨before, .color .white⟩, ⟨"│", .color .yellow⟩, ⟨after, .color .white⟩]) =
      some (c.fieldUrl f) ∧
    (0 < c.caret → ∀ now modifiers, ∃ before char after, url.toList = before ++ char :: after ∧
      before.length + 1 = c.caret ∧
      (c.update now (.key .backspace modifiers)).state =
        { c.setCurrentText (String.ofList (before ++ after)) with caret := before.length }) := by
  intro url
  obtain ⟨selected, inside⟩ := reached.placed f editing
  refine ⟨⟨selected, inside⟩, ⟨Text.isBoundary_offset _ _, Text.isBoundary_offset _ _⟩,
    ?_, ?_, ?_, ?_⟩
  · intro now char modifiers plain
    rw [insertByte?_eq, insert_of_char editing now char plain]
  · intro now modifiers
    rw [eraseByte?_eq, erase_of_backspace editing]
  · rw [Text.splitByte?_offset, fieldUrl]
    simp [editing, url]
  · intro front now modifiers
    rw [erase_of_backspace editing]
    subst selected
    exact erase_eq front inside

end Console

/-- A load that is applied while the caret stands behind the second of two
characters leaves a text of one character and the caret behind it, and then the
key for erasing takes this one out. -/
theorem caret_safe_shortened : ∃ o t older, Run o (t :: older) t.target ∧
    t.source.text .contentGenerated = "日本" ∧ t.source.console.caret = 2 ∧
    t.target.text .contentGenerated = "é" ∧
    .contentGenerated = t.target.console.selected ∧ t.target.console.caret = 1 ∧
    t.target.console.eraseByte? =
      some (t.target.console.update 0 (.key .backspace .none)).state ∧
    ∃ before char after,
      (t.target.text .contentGenerated).toList = before ++ char :: after ∧
      before.length + 1 = t.target.console.caret ∧
      (t.target.console.update 0 (.key .backspace .none)).state =
        { t.target.console.setCurrentText (String.ofList (before ++ after)) with
          caret := before.length } := by
  let settings (url : String) : Webhook.Envelope :=
    ⟨some [(Field.contentGenerated.key, some ⟨some url⟩)], none⟩
  let o : Origin := { Origin.sample with server := settings "日本" }
  let saved : Webhook.Urls := ⟨"日本", "", ""⟩
  let status (generation : Nat) : Task := .new (.fetchStatus generation)
  let backend (url : String) : Backend := ⟨none, .ok (settings url), fun _ => .ok ()⟩
  have run := Run.start (o := o)
  have run := run.step (@Step.read _ 1 {status 1} (by decide)) nofun
  have run := run.step (@Step.finish _ ⟨.fetchSettings 1, .read (settings "日本")⟩ {status 1}
    (backend "日本") (.settings 1 (.ok (settings "日本"))) rfl
    (fun e same => by cases same; rfl) rfl) nofun
  have run := run.step (@Step.deliver _ (.settings 1 (.ok (settings "日本"))) 0 rfl) nofun
  have run := run.step (.key (.char 's') .none) nofun
  have run := run.step (.key .enter .none) nofun
  have run := run.step (@Step.store _ saved {status 1} (by decide +kernel)) nofun
  have run := run.step (@Step.finish _ ⟨.saveSettings saved, .stored⟩ {status 1}
    (backend "日本") (.saved (.ok ())) rfl (by simp [Task.Allows, backend]) rfl) nofun
  have run := run.step (@Step.deliver _ (.saved (.ok ())) 0 rfl) nofun
  have run := run.step (.elsewhere (settings "é")) nofun
  have run := run.step (@Step.read _ 2 {status 1, status 2} (by decide +kernel)) nofun
  have run := run.step (@Step.finish _ ⟨.fetchSettings 2, .read (settings "é")⟩
    {status 1, status 2} (backend "é") (.settings 2 (.ok (settings "é"))) rfl
    (fun e same => by cases same; rfl) rfl) nofun
  have run := run.step (@Step.deliver _ (.settings 2 (.ok (settings "é"))) 0 rfl) nofun
  obtain ⟨⟨selected, _⟩, _, _, erased, _, front⟩ :=
    run.reached.caret_safe (f := .contentGenerated) (by decide +kernel)
  exact ⟨o, _, _, run, by decide +kernel, by decide +kernel, by decide +kernel, selected,
    by decide +kernel, erased 0 .none, front (by decide +kernel) 0 .none⟩

end Dashboard
