import Dashboard.Proofs.Binary64.Grammar

/-!
# The amounts that can be typed in

A text is read as a dollar amount just if it is a decimal literal in range, and for every
other text there is one message.

## The fact the module rests on

Whether a number is an amount is tested after it has been rounded.  As rounding is
monotone, the test is one of the exact value: it is below the midpoint at which numbers
overflow, and with a minus sign it is not above the midpoint up to which they are rounded
to zero.

## Main definitions

* `Amount.Outcome` — what reading a text comes to.
* `Amount.InRange` — the exact values that are rounded to an amount.
* `Amount.answer` — the amount, or the message.

## Main results

* `Amount.Refusal.describe_injective` — a message tells which refusal it describes.
* `Amount.answers_of_text` — the texts that are read, the amounts they are read as, and the
  texts for each message.
-/

namespace Dashboard.Amount

open Binary64 Literal

/-! ## Outcomes -/

/-- What reading a text comes to, in terms of the number that is written. -/
inductive Outcome (text : String) : Except Refusal Binary64 → Prop
  | empty : text = "" → Outcome text (.error .empty)
  | notALiteral : text ≠ "" → Binary64.read? text = none → Outcome text (.error .notALiteral)
  | outOfRange {x : Binary64} : Binary64.read? text = some x → ¬ x.IsAmount →
      Outcome text (.error (.outOfRange text))
  | amount {x : Binary64} : Binary64.read? text = some x → x.IsAmount → Outcome text (.ok x)

theorem ne_empty {text : String} {x : Binary64} (number : Binary64.read? text = some x) :
    text ≠ "" := by
  rintro rfl
  have nothing : Binary64.read? "" = none := by decide +kernel
  rw [nothing] at number
  cases number

theorem Outcome.read_eq {text : String} {result : Except Refusal Binary64}
    (outcome : Outcome text result) : read text = result := by
  cases outcome with
  | empty empty => exact if_pos empty
  | notALiteral nonempty nothing =>
      unfold read
      rw [if_neg nonempty, nothing]
  | @outOfRange x number refused =>
      -- The program asks for what an amount is not, one property after the other.
      have test : (!x.isFinite) = true ∨ x < 0 := by
        by_contra passes
        obtain ⟨finite, nonneg⟩ := not_or.1 passes
        rw [Bool.not_eq_true, Bool.not_eq_false'] at finite
        exact refused ⟨finite, nonneg⟩
      unfold read
      rw [if_neg (ne_empty number), number]
      exact if_pos test
  | amount number amount => exact read_eq_ok_iff.2 ⟨number, amount⟩

theorem exists_outcome (text : String) : ∃ result, Outcome text result := by
  by_cases empty : text = ""
  · exact ⟨_, .empty empty⟩
  cases number : Binary64.read? text with
  | none => exact ⟨_, .notALiteral empty number⟩
  | some x =>
      by_cases amount : x.IsAmount
      · exact ⟨_, .amount number amount⟩
      · exact ⟨_, .outOfRange number amount⟩

/-- **Reading has the outcome** that the number demands. -/
theorem read_eq_iff {text : String} {result : Except Refusal Binary64} :
    read text = result ↔ Outcome text result := by
  constructor
  · rintro rfl
    obtain ⟨result, outcome⟩ := exists_outcome text
    rwa [outcome.read_eq]
  · exact Outcome.read_eq

/-- **A message tells which refusal** it describes. -/
theorem Refusal.describe_injective : Function.Injective Refusal.describe := by
  have last (text : String) :
      (text ++ " is not a valid dollar amount").toList.getLast? = some 't' := by
    rw [String.toList_append, List.getLast?_append]
    rfl
  have other {text message : String} (ends : message.toList.getLast? ≠ some 't') :
      text ++ " is not a valid dollar amount" ≠ message := by
    rintro rfl
    exact ends (last text)
  rintro (_ | _ | text) (_ | _ | text') same
  · rfl
  · exact absurd same (by decide)
  · exact absurd same.symm (other (by decide))
  · exact absurd same (by decide)
  · rfl
  · exact absurd same.symm (other (by decide))
  · exact absurd same (other (by decide))
  · exact absurd same (other (by decide))
  · rw [(String.append_left_inj _).1 same]

/-! ## Exact values -/

/-- The exact values that are rounded to an amount: they do not overflow, and with a minus
sign they are rounded to zero. -/
def InRange (negative : Bool) (v : ℚ) : Prop :=
  v < 2 ^ 1024 - 2 ^ 970 ∧ (negative = true → v ≤ 1 / 2 ^ 1075)

/-- No amount has a name. -/
theorem not_isAmount_of_word {text : List Char} {x : Binary64} (written : WritesWord text x) :
    ¬ x.IsAmount := by
  intro amount
  cases written with
  | parts sign word =>
      cases word with
      | infinity => exact Bool.false_ne_true amount.1
      | nan => exact Bool.false_ne_true amount.1

section Written

variable {text : String}

theorem exists_number {negative : Bool} {v : ℚ} (written : WritesDecimal text.toList negative v) :
    ∃ x, Binary64.read? text = some x ∧ RoundsTo negative v x := by
  obtain ⟨literal, -, rounds⟩ := written.exists_read
  exact ⟨literal.round, read?_eq_some_iff.2 (.inl ⟨negative, v, written, rounds⟩), rounds⟩

theorem amount_iff {x : Binary64} : (Binary64.read? text = some x ∧ x.IsAmount) ↔
    ∃ negative v, WritesDecimal text.toList negative v ∧ RoundsTo negative v x ∧
      InRange negative v := by
  constructor
  · rintro ⟨number, amount⟩
    rcases read?_eq_some_iff.1 number with ⟨negative, v, written, rounds⟩ | written
    · have inRange := (rounds.isAmount_iff_bounds written.nonneg).1 amount
      exact ⟨negative, v, written, rounds, inRange⟩
    · exact absurd amount (not_isAmount_of_word written)
  · rintro ⟨negative, v, written, rounds, inRange⟩
    exact ⟨read?_eq_some_iff.2 (.inl ⟨negative, v, written, rounds⟩),
      (rounds.isAmount_iff_bounds written.nonneg).2 inRange⟩

theorem outOfRange_iff : (∃ x, Binary64.read? text = some x ∧ ¬ x.IsAmount) ↔
    (∃ negative v, WritesDecimal text.toList negative v ∧ ¬ InRange negative v) ∨
      ∃ x, WritesWord text.toList x := by
  constructor
  · rintro ⟨x, number, refused⟩
    rcases read?_eq_some_iff.1 number with ⟨negative, v, written, rounds⟩ | written
    · have outside := mt (rounds.isAmount_iff_bounds written.nonneg).2 refused
      exact .inl ⟨negative, v, written, outside⟩
    · exact .inr ⟨x, written⟩
  · rintro (⟨negative, v, written, outside⟩ | ⟨x, written⟩)
    · obtain ⟨x, number, rounds⟩ := exists_number written
      exact ⟨x, number, mt (rounds.isAmount_iff_bounds written.nonneg).1 outside⟩
    · exact ⟨x, read?_eq_some_iff.2 (.inr written), not_isAmount_of_word written⟩

theorem notALiteral_iff : Binary64.read? text = none ↔
    (¬ ∃ negative v, WritesDecimal text.toList negative v) ∧ ¬ ∃ x, WritesWord text.toList x := by
  rw [Option.eq_none_iff_forall_ne_some]
  constructor
  · intro nothing
    constructor
    · rintro ⟨negative, v, written⟩
      obtain ⟨x, number, -⟩ := exists_number written
      exact nothing x number
    · rintro ⟨x, written⟩
      exact nothing x (read?_eq_some_iff.2 (.inr written))
  · rintro ⟨noDecimal, noWord⟩ x number
    rcases read?_eq_some_iff.1 number with ⟨negative, v, written, -⟩ | written
    · exact noDecimal ⟨negative, v, written⟩
    · exact noWord ⟨x, written⟩

end Written

/-! ## Answers -/

/-- The amount written by a text, or the message for a text that writes none. -/
def answer (text : String) : Except String Binary64 := (read text).mapError Refusal.describe

theorem answer_eq_ok_iff {text : String} {x : Binary64} : answer text = .ok x ↔
    Outcome text (.ok x) := by
  rw [← read_eq_iff]
  unfold answer
  cases read text with
  | ok y => rw [Except.mapError, Except.ok.injEq, Except.ok.injEq]
  | error refusal => exact iff_of_false nofun nofun

theorem answer_eq_error_iff (text : String) (refusal : Refusal) :
    answer text = .error refusal.describe ↔ Outcome text (.error refusal) := by
  rw [← read_eq_iff]
  unfold answer
  cases read text with
  | ok y => exact iff_of_false nofun nofun
  | error other =>
      rw [Except.mapError, Except.error.injEq, Except.error.injEq]
      exact Refusal.describe_injective.eq_iff

/-- **What can be typed in**: the texts that are read as amounts, and the amount they are
read as, which is the nearest number; and the texts for each of the three messages. -/
theorem answers_of_text (text : String) :
    (∀ x, answer text = .ok x ↔ ∃ negative v, WritesDecimal text.toList negative v ∧
      RoundsTo negative v x ∧ InRange negative v) ∧
    (∀ negative v x, WritesDecimal text.toList negative v → RoundsTo negative v x →
      (InRange negative v ↔ x.isFinite = true ∧ ¬ x < 0)) ∧
    (answer text = .error "cannot parse float from empty string" ↔ text = "") ∧
    (answer text = .error (text ++ " is not a valid dollar amount") ↔
      (∃ negative v, WritesDecimal text.toList negative v ∧ ¬ InRange negative v) ∨
        ∃ x, WritesWord text.toList x) ∧
    (answer text = .error "invalid float literal" ↔
      text ≠ "" ∧ (¬ ∃ negative v, WritesDecimal text.toList negative v) ∧
        ¬ ∃ x, WritesWord text.toList x) := by
  refine ⟨fun x => ?_, fun negative v x written rounds => ?_, ?_, ?_, ?_⟩
  · rw [answer_eq_ok_iff, ← amount_iff]
    exact ⟨fun | .amount number amount => ⟨number, amount⟩, fun h => .amount h.1 h.2⟩
  · exact (rounds.isAmount_iff_bounds written.nonneg).symm
  · have message := answer_eq_error_iff text .empty
    exact message.trans ⟨fun | .empty empty => empty, .empty⟩
  · have message := answer_eq_error_iff text (.outOfRange text)
    refine (message.trans ?_).trans outOfRange_iff
    exact ⟨fun | .outOfRange number refused => ⟨_, number, refused⟩,
      fun ⟨_, number, refused⟩ => .outOfRange number refused⟩
  · have message := answer_eq_error_iff text .notALiteral
    rw [← notALiteral_iff]
    exact message.trans ⟨fun | .notALiteral nonempty nothing => ⟨nonempty, nothing⟩,
      fun h => .notALiteral h.1 h.2⟩

/-- A minus sign is accepted where the amount is rounded to zero. -/
example : answer "-1e-400" = .ok (.zero true) := by decide +kernel

end Dashboard.Amount
