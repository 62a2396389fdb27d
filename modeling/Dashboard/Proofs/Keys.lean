import Dashboard.Console.Update

/-!
# What a key does

There are many keys, and while viewing most of them count only with some
modifiers, but there are few things that a key can do.  `Stroke` lists them, each
with the mode in which it happens and with its keys where that matters, and
`Console.stroke` says that there are no others.  What is proved about every key
goes through this list and opens neither of the two tables of keys.

## Main results

* `Console.stroke` — a key does one of the listed things.
-/

namespace Dashboard.Console

open Webhook (Field)

/--
What a key can do, and the reaction to it.
-/
inductive Stroke (c : Console) (now : Nat) : Key → Modifiers → Reaction → Prop
  /-- The key means nothing here. -/
  | ignored {k : Key} {modifiers : Modifiers} : Stroke c now k modifiers (quietly c)
  /-- A key that quits. -/
  | quit {k : Key} {modifiers : Modifiers} (viewing : c.mode = .viewing) :
      Stroke c now k modifiers (quietly { c with quitting := true })
  /-- A key that selects a webhook. -/
  | select {k : Key} {modifiers : Modifiers} {field : Field} (viewing : c.mode = .viewing) :
      Stroke c now k modifiers (quietly { c with selected := field })
  /-- A key that asks to edit the selected webhook. -/
  | enter {k : Key} {modifiers : Modifiers} (viewing : c.mode = .viewing) :
      Stroke c now k modifiers (quietly c.startEditing)
  /-- The key that saves while viewing. -/
  | save {modifiers : Modifiers} (viewing : c.mode = .viewing)
      (held : modifiers = .none ∨ modifiers = .onlyControl) :
      Stroke c now (.char 's') modifiers (c.saveSettings now)
  /-- The key that asks for the status. -/
  | refresh (viewing : c.mode = .viewing) : Stroke c now (.char 'r') .none c.refreshStatus
  /-- The key that loads. -/
  | load {modifiers : Modifiers} (viewing : c.mode = .viewing) :
      Stroke c now (.char 'R') modifiers (c.loadSettings now)
  /-- A key that ends the editing. -/
  | leave {k : Key} {modifiers : Modifiers} {field : Field} (editing : c.mode = .editing field) :
      Stroke c now k modifiers (quietly c.stopEditing)
  /-- A key that moves the caret. -/
  | move {k : Key} {modifiers : Modifiers} {field : Field} {caret : Nat}
      (editing : c.mode = .editing field) (inside : caret ≤ max c.caret c.currentLength) :
      Stroke c now k modifiers (quietly { c with caret := caret })
  /-- A character. -/
  | insert {char : Char} {modifiers : Modifiers} {field : Field}
      (editing : c.mode = .editing field) (plain : modifiers.control = false) :
      Stroke c now (.char char) modifiers (quietly (c.insert char))
  /-- The key that erases a character. -/
  | erase {modifiers : Modifiers} {field : Field} (editing : c.mode = .editing field) :
      Stroke c now .backspace modifiers (quietly c.erase)
  /-- The key that erases everything. -/
  | clear {modifiers : Modifiers} {field : Field} (editing : c.mode = .editing field)
      (held : modifiers.control = true) :
      Stroke c now (.char 'u') modifiers (quietly c.clear)
  /-- The key that saves while editing, and ends the editing. -/
  | leaveAndSave {modifiers : Modifiers} {field : Field} (editing : c.mode = .editing field)
      (held : modifiers.control = true) :
      Stroke c now (.char 's') modifiers (c.stopEditing.saveSettings now)

private theorem stroke_moveRight (c : Console) (now : Nat) {field : Field} (modifiers : Modifiers)
    (editing : c.mode = .editing field) :
    c.Stroke now .right modifiers (quietly c.moveRight) := by
  unfold moveRight
  split
  · next room => exact .move editing (by omega)
  · exact .ignored

private theorem stroke_viewing (c : Console) (now : Nat) (k : Key) (modifiers : Modifiers)
    (viewing : c.mode = .viewing) :
    c.Stroke now k modifiers (c.viewingKey now k modifiers) := by
  unfold viewingKey
  split
  -- The keys stand in the order in which `viewingKey` lists them.
  · exact .quit viewing
  · exact .quit viewing
  · split
    · exact .quit viewing
    · exact .ignored
  · exact .select viewing
  · exact .select viewing
  · split
    · exact .select viewing
    · exact .ignored
  · exact .select viewing
  · exact .select viewing
  · split
    · exact .select viewing
    · exact .ignored
  · exact .enter viewing
  · split
    · exact .enter viewing
    · exact .ignored
  · split
    · next held => exact .save viewing held
    · exact .ignored
  · split
    · next none => exact none ▸ .refresh viewing
    · exact .ignored
  · exact .load viewing
  · exact .ignored

private theorem stroke_editing (c : Console) (now : Nat) (k : Key) (modifiers : Modifiers)
    {field : Field} (editing : c.mode = .editing field) :
    c.Stroke now k modifiers (c.editingKey now k modifiers) := by
  unfold editingKey
  split
  -- The keys stand in the order in which `editingKey` lists them.
  · exact .leave editing
  · exact .leave editing
  · exact .leave editing
  · exact .erase editing
  · exact .move editing (by omega)
  · exact stroke_moveRight c now modifiers editing
  · exact .move editing (Nat.zero_le _)
  · exact .move editing (by omega)
  · split
    · next plain => exact .insert editing (by simpa using plain)
    · next control =>
        have held : modifiers.control = true := by simpa using control
        split
        · next char => exact char ▸ .leaveAndSave editing held
        · split
          · next char => exact char ▸ .clear editing held
          · exact .ignored
  · exact .ignored

/-- **A key does one of the listed things.** -/
theorem stroke (c : Console) (now : Nat) (k : Key) (modifiers : Modifiers) :
    c.Stroke now k modifiers (c.update now (.key k modifiers)) := by
  cases h : c.mode with
  | viewing => simpa only [update, h] using stroke_viewing c now k modifiers h
  | editing field => simpa only [update, h] using stroke_editing c now k modifiers h

end Dashboard.Console
