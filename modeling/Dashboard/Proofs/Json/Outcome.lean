import Dashboard.Json.Object
import Dashboard.Proofs.Json.Grammar
import Dashboard.Proofs.Utf8

/-!
# What a reader gives

A reader gives a value and the bytes after it, with a proof that these are fewer,
or says what is wrong and where.  To compare a reader with the grammar neither
the proof nor the failure matters: `outcome?` forgets both, and with it the steps
of a reader are put together like any other functions.

## Main definitions

* `Json.outcome?` — the value and the bytes after it.

## Main results

* `Json.outcome?_bind` — one reader after another.
* `Json.skipBlank_of_blanks`, `Json.exists_blanks` — passing over blanks is the
  production for blanks.
* `Json.outcome?_word`, `Json.exists_of_word` — reading a word is taking its
  letters away.
-/

namespace Dashboard.Json

open Utf8 (bytes bytes_cons bytes_cons_ascii bytes_eq_append)

variable {α β : Type} {s t : Bytes}

/-- What a reader gives, if it gives anything. -/
def outcome? : Except Failure (Step s α) → Option (α × Bytes)
  | .ok step => some (step.value, step.rest)
  | .error _ => none

@[simp] theorem outcome?_ok (step : Step s α) :
    outcome? (.ok step) = some (step.value, step.rest) := rfl

@[simp] theorem outcome?_error (f : Failure) :
    outcome? (.error f : Except Failure (Step s α)) = none := rfl

theorem outcome?_eq_some {r : Except Failure (Step s α)} {x : α} {rest : Bytes} :
    outcome? r = some (x, rest) ↔ ∃ shorter, r = .ok ⟨x, rest, shorter⟩ := by
  cases r with
  | error f => simp
  | ok step =>
    obtain ⟨y, left, h⟩ := step
    simp only [outcome?_ok, Option.some.injEq, Prod.mk.injEq, Except.ok.injEq, Step.mk.injEq,
      exists_prop]
    exact ⟨fun h' => ⟨h'.2 ▸ h, h'⟩, fun h' => h'.2⟩

@[simp] theorem outcome?_map (f : α → β) (r : Except Failure (Step s α)) :
    outcome? (r.map (Step.map f)) = (outcome? r).map (Prod.map f id) := by
  cases r <;> rfl

@[simp] theorem outcome?_from (h : s.length ≤ t.length) (r : Except Failure (Step s α)) :
    outcome? (r.map (Step.from t h)) = outcome? r := by
  cases r <;> rfl

/-- A step that looks only at what the one before it gave. -/
theorem outcome?_bind {r : Except Failure (Step s α)} {f : Step s α → Except Failure (Step t β)}
    {g : α × Bytes → Option (β × Bytes)}
    (h : ∀ step, outcome? (f step) = g (step.value, step.rest)) :
    outcome? (r >>= f) = (outcome? r).bind g := by
  cases r with
  | error f => rfl
  | ok step => exact h step

/-! ## Blanks -/

theorem isBlank_of_mem {c : Char} (blank : c ∈ blankChars) :
    c.toNat < 0x80 ∧ isBlank (UInt8.ofNat c.toNat) = true := by
  simp only [blankChars, List.mem_cons, List.not_mem_nil, or_false] at blank
  rcases blank with rfl | rfl | rfl | rfl <;> decide

/-- Blanks as bytes and as characters. -/
theorem dropWhile_isBlank (cs : List Char) :
    skipBlank (bytes cs) = bytes (cs.dropWhile (· ∈ blankChars)) := by
  refine Utf8.dropWhile_bytes (fun c wide => ?_) (fun b high => ?_) (fun c ascii => ?_) cs
  · rw [decide_eq_false_iff_not]
    exact fun blank => absurd (isBlank_of_mem blank).1 (Nat.not_lt.2 wide)
  · rw [UInt8.le_iff_toNat_le] at high
    simp only [isBlank, Bool.or_eq_false_iff, beq_eq_false_iff_ne]
    refine ⟨⟨⟨?_, ?_⟩, ?_⟩, ?_⟩ <;> (rintro rfl; exact absurd high (by decide))
  · rw [Bool.eq_iff_iff, decide_eq_true_iff]
    simp only [isBlank, Bool.or_eq_true, beq_iff_eq, blankChars, List.mem_cons, List.not_mem_nil,
      or_false, or_assoc]
    rw [← Utf8.ofNat_inj_of_ascii ascii (d := ' ') (by decide),
      ← Utf8.ofNat_inj_of_ascii ascii (d := '\t') (by decide),
      ← Utf8.ofNat_inj_of_ascii ascii (d := '\n') (by decide),
      ← Utf8.ofNat_inj_of_ascii ascii (d := '\r') (by decide)]
    rfl

/-- What follows blanks is found behind them. -/
theorem skipBlank_of_blanks {cs ds : List Char} (blanks : Blanks cs ds) :
    skipBlank (bytes cs) = skipBlank (bytes ds) := by
  induction blanks with
  | none => rfl
  | blank mem _ ih =>
    rw [← ih, skipBlank, bytes_cons_ascii (isBlank_of_mem mem).1, List.dropWhile_cons,
      if_pos (isBlank_of_mem mem).2]
    rfl

/-- A character that is no blank stays where it is. -/
theorem skipBlank_cons {cs ds : List Char} {c : Char} (blanks : Blanks cs (c :: ds))
    (ascii : c.toNat < 0x80) (solid : c ∉ blankChars) :
    skipBlank (bytes cs) = UInt8.ofNat c.toNat :: bytes ds := by
  rw [skipBlank_of_blanks blanks, dropWhile_isBlank, List.dropWhile_cons,
    if_neg (by simpa using solid), bytes_cons_ascii ascii]

theorem blanks_dropWhile (cs : List Char) : Blanks cs (cs.dropWhile (· ∈ blankChars)) := by
  induction cs with
  | nil => exact .none
  | cons c cs ih =>
    by_cases blank : c ∈ blankChars
    · rw [List.dropWhile_cons, if_pos (by simpa using blank)]
      exact .blank blank ih
    · rw [List.dropWhile_cons, if_neg (by simpa using blank)]
      exact .none

/-- What is passed over are blanks. -/
theorem exists_blanks {cs : List Char} {r : Bytes} (skipped : skipBlank (bytes cs) = r) :
    ∃ ds, Blanks cs ds ∧ bytes ds = r :=
  ⟨_, blanks_dropWhile cs, (dropWhile_isBlank cs).symm.trans skipped⟩

/-- The same where a known character comes next. -/
theorem exists_blanks_cons {cs : List Char} {c : Char} {r : Bytes}
    (skipped : skipBlank (bytes cs) = String.utf8EncodeChar c ++ r) :
    ∃ ds, Blanks cs (c :: ds) ∧ bytes ds = r := by
  obtain ⟨ds, blanks, left⟩ := exists_blanks skipped
  obtain ⟨es, rfl, rest⟩ := bytes_eq_append (w := [c]) (r := r)
    (left.trans (by rw [bytes_cons, Utf8.bytes_nil, List.append_nil]))
  exact ⟨es, blanks, rest⟩

theorem Blanks.trans {cs ds es : List Char} (h : Blanks cs ds) (h' : Blanks ds es) :
    Blanks cs es := by
  induction h with
  | none => exact h'
  | blank mem _ ih => exact .blank mem (ih h')

/-! ## Words -/

theorem letters_append (expected s : Bytes) :
    (letters expected (expected ++ s)).map Subtype.val = .ok s := by
  induction expected with
  | nil => rfl
  | cons b expected ih =>
    rw [List.cons_append, letters, if_pos rfl]
    cases inner : letters expected (expected ++ s) with
    | error f => rw [inner] at ih; cases ih
    | ok left => rw [inner] at ih; exact ih

theorem eq_append_of_letters {expected s r : Bytes}
    (eq : (letters expected s).map Subtype.val = .ok r) : s = expected ++ r := by
  induction expected generalizing s with
  | nil =>
    cases eq
    rfl
  | cons b expected ih =>
    cases s with
    | nil => cases eq
    | cons c s =>
      rw [letters] at eq
      split at eq
      · next same =>
        rw [same, List.cons_append, List.cons.injEq]
        refine ⟨rfl, ih ?_⟩
        cases inner : letters expected s with
        | error f => rw [inner] at eq; cases eq
        | ok left => rw [inner] at eq; exact eq
      · cases eq

theorem outcome?_word {expected : Bytes} (x : α) (h : 0 < expected.length) (s : Bytes) :
    outcome? (word expected x h (expected ++ s)) = some (x, s) := by
  have read := letters_append expected s
  rw [word]
  cases inner : letters expected (expected ++ s) with
  | error f => rw [inner] at read; cases read
  | ok left =>
    rw [inner] at read
    exact congrArg (fun r => some (x, r)) (Except.ok.inj read)

theorem exists_of_word {expected s r : Bytes} {x y : α} {h : 0 < expected.length}
    (read : outcome? (word expected x h s) = some (y, r)) : y = x ∧ s = expected ++ r := by
  rw [word] at read
  cases inner : letters expected s with
  | error f => rw [inner] at read; cases read
  | ok left =>
    rw [inner] at read
    cases read
    exact ⟨rfl, eq_append_of_letters (by rw [inner]; rfl)⟩

end Dashboard.Json
