import Dashboard.Proofs.Caret
import Mathlib.Data.List.Infix

/-!
# The editor as a text buffer

While a URL is edited, the text and the caret are two parts of the console, and the
keys change one or the other or both.  A text buffer has the characters in front of the
caret and those behind it, and each key moves some of them from one list to the other,
adds one or drops some.  The two are the same editor: the console after any number of
keys holds the buffer after these keys, as long as none of them ends the editing.

A character is one element of a list here, however many bytes it has.  What the keys do
at the byte under the caret is the same, see `Console.insertByte?_eq` and
`Console.eraseByte?_eq`.

## Main definitions

* `Buffer`, `Buffer.press` — the characters around the caret, and what a key does.
* `Console.buffer`, `Console.withBuffer` — what a console holds of it.

## Main results

* `Console.press_eq` — one key.
* `Console.pressAll_eq` — any number of keys, as an equation of consoles.
* `Console.edits_as_buffer` — the text, the caret and all else after them.
-/

namespace Dashboard

open Webhook (Field Urls)

/-- A key that is pressed at some instant. -/
structure Press where
  now : Nat
  key : Key
  modifiers : Modifiers

/-! ## The buffer -/

/-- The characters in front of the caret and the characters behind it. -/
structure Buffer where
  before : List Char
  after : List Char

namespace Buffer

/-- What a key does to a buffer.  Only the characters heed a modifier. -/
def press (b : Buffer) (p : Press) : Buffer :=
  match p.key with
  | .char c =>
    if p.modifiers.control = false then ⟨b.before ++ [c], b.after⟩
    else if c = 'u' then ⟨[], []⟩
    else b
  | .backspace => ⟨b.before.dropLast, b.after⟩
  | .left => ⟨b.before.dropLast, b.before.getLast?.toList ++ b.after⟩
  | .right => ⟨b.before ++ b.after.head?.toList, b.after.tail⟩
  | .home => ⟨[], b.before ++ b.after⟩
  | .endKey => ⟨b.before ++ b.after, []⟩
  | _ => b

/-- What some keys do to a buffer, one after another. -/
def pressAll (b : Buffer) (presses : List Press) : Buffer := presses.foldl press b

/-- The text of a buffer. -/
def text (b : Buffer) : String := String.ofList (b.before ++ b.after)

end Buffer

namespace Console

/-- The console after a key. -/
def press (c : Console) (p : Press) : Console := (c.update p.now (.key p.key p.modifiers)).state

/-- The console after some keys. -/
def pressAll (c : Console) (presses : List Press) : Console := presses.foldl press c

/-- The buffer that a console holds. -/
def buffer (c : Console) : Buffer :=
  ⟨c.currentText.toList.take c.caret, c.currentText.toList.drop c.caret⟩

/-- A console with another buffer. -/
def withBuffer (c : Console) (b : Buffer) : Console :=
  { c.setCurrentText b.text with caret := b.before.length }

/-! ## Consoles and their buffers -/

section Views

variable {c : Console}

theorem currentText_withBuffer (c : Console) (b : Buffer) : (c.withBuffer b).currentText = b.text :=
  Urls.get_set_self c.form.urls c.selected b.text

theorem withBuffer_withBuffer (c : Console) (b b' : Buffer) :
    (c.withBuffer b).withBuffer b' = c.withBuffer b' := by
  simp only [withBuffer, setCurrentText, Urls.set_set]

theorem buffer_withBuffer (c : Console) (b : Buffer) : (c.withBuffer b).buffer = b := by
  rw [buffer, currentText_withBuffer, Buffer.text, String.toList_ofList]
  show (⟨(b.before ++ b.after).take b.before.length, (b.before ++ b.after).drop b.before.length⟩ :
    Buffer) = b
  rw [List.take_left, List.drop_left]

theorem buffer_append (c : Console) : c.buffer.before ++ c.buffer.after = c.currentText.toList :=
  List.take_append_drop c.caret c.currentText.toList

/-- A buffer with the text of the console says where the caret stands, and no more. -/
theorem withBuffer_of_append {b : Buffer}
    (same : b.before ++ b.after = c.buffer.before ++ c.buffer.after) :
    c.withBuffer b = { c with caret := b.before.length } := by
  have text : b.text = c.currentText := by
    rw [Buffer.text, same, buffer_append, String.ofList_toList]
  have kept : c.setCurrentText c.currentText = c := by
    rw [setCurrentText, currentText, Urls.set_get]
  rw [withBuffer, text, kept]

section Inside

variable (inside : c.caret ≤ c.currentLength)

include inside

theorem length_before : c.buffer.before.length = c.caret := List.length_take_of_le inside

theorem withBuffer_buffer : c.withBuffer c.buffer = c := by
  rw [withBuffer_of_append rfl, length_before inside]

end Inside

end Views

/-! ## One key -/

section Keys

variable {c : Console} (inside : c.caret ≤ c.currentLength)

include inside

theorem insert_eq_withBuffer (char : Char) :
    c.insert char = c.withBuffer ⟨c.buffer.before ++ [char], c.buffer.after⟩ := by
  have text : Text.insertAt c.currentText c.caret char =
      Buffer.text ⟨c.buffer.before ++ [char], c.buffer.after⟩ := by
    rw [Text.insertAt, Buffer.text, List.append_assoc]
    rfl
  have caret : c.caret + 1 = (c.buffer.before ++ [char]).length := by
    rw [List.length_append, length_before inside]
    rfl
  rw [insert, text, caret]
  rfl

theorem dropLast_before :
    c.buffer.before.dropLast = c.currentText.toList.take (c.caret - 1) := by
  rw [List.dropLast_eq_take, length_before inside]
  show (c.currentText.toList.take c.caret).take (c.caret - 1) = _
  rw [List.take_take, Nat.min_eq_left (Nat.sub_le _ 1)]

theorem erase_eq_withBuffer :
    c.erase = c.withBuffer ⟨c.buffer.before.dropLast, c.buffer.after⟩ := by
  by_cases front : c.caret = 0
  · have none : c.buffer.before = [] := by
      rw [buffer, front]
      rfl
    have same : c.buffer.before.dropLast = c.buffer.before := by
      rw [none]
      rfl
    rw [erase, if_neg (by omega), same]
    exact (withBuffer_buffer inside).symm
  · have text : Text.eraseAt c.currentText (c.caret - 1) =
        Buffer.text ⟨c.buffer.before.dropLast, c.buffer.after⟩ := by
      rw [Text.eraseAt, Nat.sub_add_cancel (by omega), Buffer.text, dropLast_before inside]
      rfl
    have caret : c.caret - 1 = c.buffer.before.dropLast.length := by
      rw [List.length_dropLast, length_before inside]
    rw [erase, if_pos ⟨by omega, inside⟩, text, caret]
    rfl

theorem moveLeft_eq_withBuffer :
    c.moveLeft =
      c.withBuffer ⟨c.buffer.before.dropLast, c.buffer.before.getLast?.toList ++ c.buffer.after⟩ := by
  have whole : c.buffer.before.dropLast ++ c.buffer.before.getLast?.toList = c.buffer.before := by
    cases last : c.buffer.before.getLast? with
    | none =>
      rw [List.getLast?_eq_none_iff.1 last]
      rfl
    | some char => exact List.dropLast_append_getLast? char last
  rw [withBuffer_of_append (by rw [← List.append_assoc, whole]), List.length_dropLast,
    length_before inside]
  rfl

theorem moveRight_eq_withBuffer :
    c.moveRight =
      c.withBuffer ⟨c.buffer.before ++ c.buffer.after.head?.toList, c.buffer.after.tail⟩ := by
  have whole : c.buffer.after.head?.toList ++ c.buffer.after.tail = c.buffer.after := by
    cases c.buffer.after <;> rfl
  have room : c.buffer.after.length = c.currentLength - c.caret := List.length_drop
  rw [withBuffer_of_append (by rw [List.append_assoc, whole]), List.length_append,
    length_before inside]
  cases rest : c.buffer.after with
  | nil =>
    rw [rest, List.length_nil] at room
    rw [moveRight, if_neg (by omega)]
    rfl
  | cons char after =>
    rw [rest, List.length_cons] at room
    rw [moveRight, if_pos (by omega)]
    rfl

end Keys

theorem moveHome_eq_withBuffer (c : Console) :
    c.moveHome = c.withBuffer ⟨[], c.buffer.before ++ c.buffer.after⟩ :=
  (withBuffer_of_append (b := ⟨[], c.buffer.before ++ c.buffer.after⟩) rfl).symm

theorem moveEnd_eq_withBuffer (c : Console) :
    c.moveEnd = c.withBuffer ⟨c.buffer.before ++ c.buffer.after, []⟩ := by
  rw [withBuffer_of_append (List.append_nil _), buffer_append]
  rfl

theorem clear_eq_withBuffer (c : Console) : c.clear = c.withBuffer ⟨[], []⟩ := rfl

/-- **A key that does not end the editing does to the console what it does to its
buffer.** -/
theorem press_eq {c : Console} {f : Field} (editing : c.mode = .editing f)
    (inside : c.caret ≤ c.currentLength) {p : Press} (stays : (c.press p).mode ≠ .viewing) :
    c.press p = c.withBuffer (c.buffer.press p) := by
  have same := (withBuffer_buffer inside).symm
  obtain ⟨now, key, modifiers⟩ := p
  simp only [press, update, editing, editingKey] at stays ⊢
  cases key with
  | escape | enter | tab => exact absurd rfl stays
  | char char =>
    cases held : modifiers.control with
    | false =>
      simp only [held, Bool.not_false, ↓reduceIte, Buffer.press]
      exact insert_eq_withBuffer inside char
    | true =>
      simp only [held, Bool.not_true, Bool.false_eq_true, Bool.true_eq_false, ↓reduceIte,
        Buffer.press] at stays ⊢
      by_cases save : char = 's'
      · rw [if_pos save] at stays
        obtain ⟨_, saved⟩ := c.stopEditing.saveSettings_state now
        rw [saved] at stays
        exact absurd rfl stays
      rw [if_neg save]
      by_cases clear : char = 'u'
      · rw [if_pos clear, if_pos clear]
        exact c.clear_eq_withBuffer
      · rw [if_neg clear, if_neg clear]
        exact same
  | backspace => exact erase_eq_withBuffer inside
  | left => exact moveLeft_eq_withBuffer inside
  | right => exact moveRight_eq_withBuffer inside
  | home => exact c.moveHome_eq_withBuffer
  | endKey => exact c.moveEnd_eq_withBuffer
  | _ => exact same

/-! ## Any number of keys -/

/-- The console after some keys holds the buffer after these keys, and nothing else has
changed. -/
theorem pressAll_eq {c : Console} {f : Field} (editing : c.mode = .editing f)
    (inside : c.caret ≤ c.currentLength) {presses : List Press}
    (stays : ∀ earlier, earlier <+: presses → (c.pressAll earlier).mode ≠ .viewing) :
    c.pressAll presses = c.withBuffer (c.buffer.pressAll presses) := by
  -- By induction on the keys; the console after the first is one with another buffer.
  induction presses generalizing c with
  | nil => exact (withBuffer_buffer inside).symm
  | cons p presses ih =>
    have first : c.press p = c.withBuffer (c.buffer.press p) :=
      press_eq editing inside (stays [p] (List.prefix_append [p] presses))
    have editing' : (c.press p).mode = .editing f := by
      rw [first]
      exact editing
    have inside' : (c.press p).caret ≤ (c.press p).currentLength := by
      rw [first, currentLength, currentText_withBuffer, Buffer.text, String.toList_ofList,
        List.length_append]
      exact Nat.le_add_right _ _
    have rest := ih editing' inside' fun earlier front =>
      stays (p :: earlier) (List.cons_prefix_cons.2 ⟨rfl, front⟩)
    show (c.press p).pressAll presses = c.withBuffer ((c.buffer.press p).pressAll presses)
    rw [rest, first, withBuffer_withBuffer, buffer_withBuffer]

/-- **The editor is a text buffer.**  Somebody edits the selected webhook, with the caret
inside its text, and presses any keys that do not end this.  Then the text is that of the
buffer after these keys, and the caret stands between its two parts.  The other webhooks,
the selected one and the mode are the same as before. -/
theorem edits_as_buffer {c : Console} {f : Field} (editing : c.mode = .editing f)
    (selected : c.selected = f) (inside : c.caret ≤ (c.form.urls.get f).toList.length)
    (presses : List Press)
    (stays : ∀ earlier, earlier <+: presses → (c.pressAll earlier).mode ≠ .viewing) :
    let url := (c.form.urls.get f).toList
    let b := Buffer.pressAll ⟨url.take c.caret, url.drop c.caret⟩ presses
    let d := c.pressAll presses
    (d.form.urls.get f).toList = b.before ++ b.after ∧ d.caret = b.before.length ∧
      (∀ g ≠ f, d.form.urls.get g = c.form.urls.get g) ∧
      d.selected = f ∧ d.mode = .editing f := by
  subst selected
  intro url b d
  have after : d = c.withBuffer b := pressAll_eq editing inside stays
  rw [after]
  refine ⟨?_, rfl, fun g other => Urls.get_set_ne _ _ other, rfl, editing⟩
  show (c.withBuffer b).currentText.toList = _
  rw [currentText_withBuffer, Buffer.text, String.toList_ofList]

/-- Behind the first character of `日é` another one is typed.  The two that were there
are erased, one from the front and one from the end. -/
theorem edits_as_buffer_wide :
    let c : Console :=
      { new ⟨80, 42⟩ true with
        mode := .editing .dailyReport
        selected := .dailyReport
        form := { Webhook.Form.new with urls := Urls.empty.set .dailyReport "日é" }
        caret := 1 }
    let presses : List Press :=
      [⟨0, .char 'X', { Modifiers.none with shift := true }⟩, ⟨1, .left, .none⟩,
        ⟨1, .backspace, .none⟩, ⟨2, .endKey, .none⟩, ⟨3, .backspace, .onlyControl⟩,
        ⟨4, .char 'ß', .none⟩, ⟨5, .char 'k', .onlyControl⟩]
    ((c.pressAll presses).form.urls.get .dailyReport).toList = ['X', 'ß'] ∧
      (c.pressAll presses).caret = 2 ∧
      (c.pressAll presses).mode = .editing .dailyReport := by
  intro c presses
  have stays : ∀ earlier ∈ presses.inits, (c.pressAll earlier).mode ≠ .viewing := by
    decide +kernel
  obtain ⟨text, caret, -, -, mode⟩ := edits_as_buffer (c := c) (f := .dailyReport) rfl rfl
    (by decide +kernel) presses
    fun earlier front => stays earlier ((List.mem_inits earlier presses).2 front)
  exact ⟨text.trans (by decide +kernel), caret.trans (by decide +kernel), mode⟩

end Console

end Dashboard
