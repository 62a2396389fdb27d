import Mathlib.Data.List.DropRight
import Dashboard.Proofs.Json.Text

/-!
# Reading the outside of lists and objects

What stands between the members of an object and between the elements of a list
is read by several readers, each with its own failures.  Without the failures
they all do the same: they find a character behind blanks, and they find out
whether a list or an object goes on.

## Main definitions

* `Json.after?` — what follows a character and the blanks in front of it.
* `Json.place?` — whether a list or an object ends, and where it goes on.

## Main results

* `Json.after?_of_blanks`, `Json.exists_of_after?`, `Json.place?_of_blanks`,
  `Json.exists_of_place`, `Json.place?_of_lead`, `Json.lead_of_place?` — the two
  are the productions.
* `Json.outcome?_nextKey`, `Json.outcome?_colon`, `Json.next?_nextElement`,
  `Json.outcome?_listEnd` — the readers in these terms.
-/

namespace Dashboard.Json

open Utf8 (bytes bytes_cons_ascii bytes_eq_append)

/-! ## One character behind blanks -/

/-- What follows a character and the blanks in front of it. -/
def after? (c : Char) (s : Bytes) : Option Bytes :=
  match skipBlank s with
  | [] => none
  | b :: r => if b = UInt8.ofNat c.toNat then some r else none

theorem after?_nil {c : Char} {s : Bytes} (eq : skipBlank s = []) : after? c s = none := by
  simp only [after?, eq]

theorem after?_cons {c : Char} {s r : Bytes} {b : UInt8} (eq : skipBlank s = b :: r) :
    after? c s = if b = UInt8.ofNat c.toNat then some r else none := by
  simp only [after?, eq]

theorem after?_of_blanks {c : Char} {cs ds : List Char} (blanks : Blanks cs (c :: ds))
    (ascii : c.toNat < 0x80) (solid : c ∉ blankChars) : after? c (bytes cs) = some (bytes ds) := by
  rw [after?_cons (skipBlank_cons blanks ascii solid), if_pos rfl]

theorem exists_of_after? {c : Char} {cs : List Char} {r : Bytes} (ascii : c.toNat < 0x80)
    (found : after? c (bytes cs) = some r) : ∃ ds, Blanks cs (c :: ds) ∧ bytes ds = r := by
  rw [after?] at found
  split at found
  · cases found
  · next b r' eq =>
    split at found
    · next same =>
      cases found
      exact exists_blanks_cons (by rw [eq, same, Utf8.encodeChar_ascii ascii]; rfl)
    · cases found

theorem skipBlank_skipBlank (s : Bytes) : skipBlank (skipBlank s) = skipBlank s :=
  List.dropWhile_idempotent isBlank s

theorem skipBlank_of_eq {s r : Bytes} {b : UInt8} (eq : skipBlank s = b :: r) :
    skipBlank (b :: r) = b :: r := by
  rw [← eq, skipBlank_skipBlank]

theorem outcome?_colon (s : Bytes) : outcome? (colon s) = (after? ':' s).map fun r => ((), r) := by
  rw [colon]
  split
  · next eq => rw [after?_nil eq]; rfl
  · next b r eq =>
    rw [after?_cons eq]
    show _ = Option.map _ (if b = colonByte then _ else _)
    split <;> rfl

theorem outcome?_listEnd (s : Bytes) :
    outcome? (listEnd s) = (after? ']' s).map fun r => ((), r) := by
  rw [listEnd]
  split
  · next eq => rw [after?_nil eq]; rfl
  · next b r eq =>
    rw [after?_cons eq]
    show _ = Option.map _ (if b = closeBracket then _ else _)
    split
    · rfl
    · split
      · split <;> rfl
      · rfl

/-! ## Whether it goes on -/

/-- Whether a list or an object ends here, and what follows its end or where its
next part begins. -/
def place? (close : Char) (first : Bool) (s : Bytes) : Option (Bool × Bytes) :=
  match skipBlank s with
  | [] => none
  | b :: r =>
    if b = UInt8.ofNat close.toNat then some (true, r)
    else if first then some (false, b :: r)
    else if b = comma then some (false, r)
    else none

/-- What closes a list or an object. -/
def Closes (c : Char) : Prop := c = ']' ∨ c = '\x7d'

theorem Closes.ascii {c : Char} (closes : Closes c) : c.toNat < 0x80 := by
  rcases closes with rfl | rfl <;> decide

theorem Closes.solid {c : Char} (closes : Closes c) : c ∉ blankChars := by
  rcases closes with rfl | rfl <;> decide

theorem Closes.ne_comma {c : Char} (closes : Closes c) : c ≠ ',' := by
  rcases closes with rfl | rfl <;> decide

theorem place?_nil {close : Char} {first : Bool} {s : Bytes} (eq : skipBlank s = []) :
    place? close first s = none := by
  simp only [place?, eq]

theorem place?_cons {close : Char} {first : Bool} {s r : Bytes} {b : UInt8}
    (eq : skipBlank s = b :: r) : place? close first s =
      if b = UInt8.ofNat close.toNat then some (true, r)
      else if first then some (false, b :: r)
      else if b = comma then some (false, r)
      else none := by
  simp only [place?, eq]

section Place

variable {close : Char} {first : Bool} {cs ds : List Char} {r : Bytes}

theorem place?_of_blanks (closes : Closes close) (blanks : Blanks cs (close :: ds)) :
    place? close first (bytes cs) = some (true, bytes ds) := by
  rw [place?_cons (skipBlank_cons blanks closes.ascii closes.solid), if_pos rfl]

theorem exists_of_place (closes : Closes close)
    (found : place? close first (bytes cs) = some (true, r)) :
    ∃ ds, Blanks cs (close :: ds) ∧ bytes ds = r := by
  refine exists_of_after? closes.ascii ?_
  cases eq : skipBlank (bytes cs) with
  | nil =>
    rw [place?_nil eq] at found
    cases found
  | cons b r' =>
    rw [place?_cons eq] at found
    rw [after?_cons eq]
    split at found
    · next same =>
      cases found
      exact if_pos same
    · split at found
      · cases found
      split at found <;> cases found

/-- A part begins behind what leads to it. -/
theorem place?_of_lead {c : Char} (closes : Closes close) (lead : Lead first cs (c :: ds))
    (ascii : c.toNat < 0x80) (solid : c ∉ blankChars) (ne : c ≠ close) :
    ∃ es, place? close first (bytes cs) = some (false, bytes es) ∧ Blanks es (c :: ds) := by
  cases first with
  | true =>
    have blanks : Blanks cs (c :: ds) := lead
    refine ⟨c :: ds, ?_, .none⟩
    rw [place?_cons (skipBlank_cons blanks ascii solid), bytes_cons_ascii ascii]
    exact if_neg fun same => ne ((Utf8.ofNat_inj_of_ascii ascii closes.ascii).1 same)
  | false =>
    obtain ⟨es, blanks, behind⟩ : ∃ es, Blanks cs (',' :: es) ∧ Blanks es (c :: ds) := lead
    refine ⟨es, ?_, behind⟩
    rw [place?_cons (skipBlank_cons blanks (by decide) (by decide))]
    exact if_neg fun same =>
      closes.ne_comma ((Utf8.ofNat_inj_of_ascii (by decide) closes.ascii).1 same).symm

/-- Where a part begins, what leads to it was passed over. -/
theorem lead_of_place? (found : place? close first (bytes cs) = some (false, r)) :
    ∃ es, bytes es = r ∧ ∀ ds, Blanks es ds → Lead first cs ds := by
  cases eq : skipBlank (bytes cs) with
  | nil =>
    rw [place?_nil eq] at found
    cases found
  | cons b r' =>
    rw [place?_cons eq] at found
    split at found
    · cases found
    split at found
    · next isFirst =>
      cases found
      obtain ⟨es, blanks, left⟩ := exists_blanks eq
      refine ⟨es, left, fun ds behind => ?_⟩
      rw [Lead, if_pos isFirst]
      exact blanks.trans behind
    · next notFirst =>
      split at found
      · next isComma =>
        cases found
        obtain ⟨es, blanks, left⟩ := exists_blanks_cons (c := ',') (eq.trans (by rw [isComma]; rfl))
        refine ⟨es, left, fun ds behind => ?_⟩
        rw [Lead, if_neg notFirst]
        exact ⟨es, blanks, behind⟩
      · cases found

end Place

/-- Where an element begins, no list ends. -/
theorem after?_of_place {close : Char} {first : Bool} {s r : Bytes}
    (place : place? close first s = some (false, r)) : after? close s = none := by
  cases eq : skipBlank s with
  | nil => exact after?_nil eq
  | cons b t =>
    rw [place?_cons eq] at place
    rw [after?_cons eq]
    split at place
    · cases place
    · next ne => exact if_neg ne

/-- Where a list ends, it may end in any place. -/
theorem place?_of_after {close : Char} {first : Bool} {s r : Bytes}
    (found : after? close s = some r) : place? close first s = some (true, r) := by
  cases eq : skipBlank s with
  | nil =>
    rw [after?_nil eq] at found
    cases found
  | cons b t =>
    rw [after?_cons eq] at found
    rw [place?_cons eq]
    split at found
    · next same =>
      cases found
      exact if_pos same
    · cases found

/-! ## Keys and elements -/

theorem outcome?_nextKey (first : Bool) (s : Bytes) :
    outcome? (nextKey first s) = (place? '\x7d' first s).bind fun p =>
      if p.1 then some (none, p.2)
      else (after? '"' p.2).bind fun r => (outcome? (text r)).map (Prod.map some id) := by
  rw [nextKey]
  split
  · next eq => rw [place?_nil eq]; rfl
  · next b r eq =>
    rw [place?_cons eq]
    show _ = Option.bind (if b = closeBrace then _ else _) _
    split
    · rfl
    split
    · rw [Option.bind_some, if_neg Bool.false_ne_true, after?_cons (skipBlank_of_eq eq)]
      show _ = Option.bind (if b = quoteByte then _ else _) _
      split
      · rw [Option.bind_some]
        cases text r <;> rfl
      · rfl
    split
    · rw [Option.bind_some, if_neg Bool.false_ne_true]
      split
      · next eq' => rw [after?_nil eq']; rfl
      · next c q eq' =>
        rw [after?_cons eq']
        show _ = Option.bind (if c = quoteByte then _ else _) _
        simp only
        split
        · rw [Option.bind_some]
          cases text q <;> rfl
        · split <;> rfl
    · rfl

/-- What is found at a place of a list, if anything. -/
def next? {s : Bytes} : Except Failure (Place s) → Option (Bool × Bytes)
  | .ok (.close r _) => some (true, r)
  | .ok (.element r _) => some (false, r)
  | .error _ => none

/-- An element is found behind the blanks in front of it, and none is begun by
a closing bracket. -/
theorem next?_nextElement (first : Bool) (s : Bytes) :
    next? (nextElement first s) = (place? ']' first s).bind fun p =>
      if p.1 then some p
      else match skipBlank p.2 with
        | [] => none
        | b :: r => if b = closeBracket then none else some (false, b :: r) := by
  rw [nextElement]
  split
  · next eq => rw [place?_nil eq]; rfl
  · next b r eq =>
    rw [place?_cons eq]
    show _ = Option.bind (if b = closeBracket then _ else _) _
    split
    · rfl
    · next open' =>
      split
      · rw [Option.bind_some, if_neg Bool.false_ne_true]
        simp only [skipBlank_of_eq eq]
        exact (if_neg open').symm
      split
      · rw [Option.bind_some, if_neg Bool.false_ne_true]
        split
        · next eq' => simp only [eq']; rfl
        · next c q eq' =>
          simp only [eq']
          split <;> rfl
      · rfl

end Dashboard.Json
