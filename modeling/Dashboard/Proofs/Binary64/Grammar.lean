import Dashboard.Proofs.Binary64.Decimal

/-!
# The grammar of literals

What a text has to be so that it is read as a number, and which value it writes, said
without the reader.  The value is the exact one, and the number that is read is the one
nearest to it.

## The fact the module rests on

What follows a part of a literal never goes on with it: no sign follows a sign, digits are
followed by a point or by the letter of an exponent, and the exponent is the last part.
So the reader, which takes as many characters for each part as there are, finds the parts
that were written.

## Main definitions

* `Literal.WritesDecimal` — a decimal literal, with its sign and its exact magnitude.
* `Literal.WritesWord` — a word for an infinity or for not-a-number.

## Main results

* `Literal.exponent?_eq_some_iff` — the texts of exponents.
* `Literal.exists_decimal?`, `Literal.of_decimal?` — the texts of unsigned decimals.
* `Binary64.read?_eq_some_iff` — the texts that are read, and what is read.
-/

namespace Dashboard

/-- Whether all characters are decimal digits. -/
def AllDigits (cs : List Char) : Prop := ∀ c ∈ cs, c.isDigit

namespace Literal

open Binary64

/-! ## The grammar -/

/-- A sign, which may be left out. -/
inductive WritesSign : List Char → Bool → Prop
  | none : WritesSign [] false
  | plus : WritesSign ['+'] false
  | minus : WritesSign ['-'] true

/-- Digits with an optional point, and at least one digit. -/
inductive WritesMantissa : List Char → ℚ → Prop
  | whole {ds : List Char} : ds ≠ [] → AllDigits ds → WritesMantissa ds (Digits.value ds)
  | pointed {ds fs : List Char} : ds ++ fs ≠ [] → AllDigits ds → AllDigits fs →
      WritesMantissa (ds ++ '.' :: fs) (Digits.value ds + Digits.value fs / 10 ^ fs.length)

/-- An exponent, which may be left out: a letter, an optional sign and at least one digit. -/
inductive WritesExponent : List Char → Int → Prop
  | none : WritesExponent [] 0
  | letter {c : Char} {s ds : List Char} {negative : Bool} : c = 'e' ∨ c = 'E' →
      WritesSign s negative → ds ≠ [] → AllDigits ds →
      WritesExponent (c :: (s ++ ds)) (Digits.signed negative (Digits.value ds))

/-- A decimal literal, with its sign and the magnitude that it writes. -/
inductive WritesDecimal : List Char → Bool → ℚ → Prop
  | parts {s m e : List Char} {negative : Bool} {x : ℚ} {n : Int} : WritesSign s negative →
      WritesMantissa m x → WritesExponent e n →
      WritesDecimal (s ++ (m ++ e)) negative (x * 10 ^ n)

/-- A word in letters of either case. -/
inductive IsWord (negative : Bool) (w : List Char) : Literal → Prop
  | infinity : w.map Char.toLower = "inf".toList ∨ w.map Char.toLower = "infinity".toList →
      IsWord negative w (.infinity negative)
  | nan : w.map Char.toLower = "nan".toList → IsWord negative w .nan

/-- A word with a sign, and the number that it names. -/
inductive WritesWord : List Char → Binary64 → Prop
  | parts {s w : List Char} {negative : Bool} {literal : Literal} : WritesSign s negative →
      IsWord negative w literal → WritesWord (s ++ w) literal.round

/-! ## Signs and digits -/

/-- Whether a text begins with no sign. -/
def Unsigned (cs : List Char) : Prop := ∀ c rest, cs = c :: rest → c ≠ '+' ∧ c ≠ '-'

theorem splitSign_append {s rest : List Char} {negative : Bool} (sign : WritesSign s negative)
    (unsigned : Unsigned rest) : Digits.splitSign (s ++ rest) = (negative, rest) := by
  cases sign with
  | plus | minus => rfl
  | none =>
      rw [List.nil_append]
      unfold Digits.splitSign
      split
      · exact absurd rfl (unsigned _ _ rfl).2
      · exact absurd rfl (unsigned _ _ rfl).1
      · rfl

theorem exists_sign (text : List Char) : ∃ s, WritesSign s (Digits.splitSign text).1 ∧
    text = s ++ (Digits.splitSign text).2 := by
  unfold Digits.splitSign
  split
  · exact ⟨['-'], .minus, rfl⟩
  · exact ⟨['+'], .plus, rfl⟩
  · exact ⟨[], .none, rfl⟩

theorem unsigned_of_digit {c : Char} (digit : c.isDigit) (cs : List Char) : Unsigned (c :: cs) := by
  rintro _ _ ⟨⟩
  constructor
  · rintro rfl
    exact absurd digit (by decide)
  · rintro rfl
    exact absurd digit (by decide)

theorem unsigned_of_digits {ds : List Char} (nonempty : ds ≠ []) (digits : AllDigits ds)
    (rest : List Char) : Unsigned (ds ++ rest) := by
  obtain ⟨c, cs, rfl⟩ := List.exists_cons_of_ne_nil nonempty
  exact unsigned_of_digit (digits c List.mem_cons_self) (cs ++ rest)

/-- Digits end where something else begins. -/
theorem span_digits {ds rest : List Char} (digits : AllDigits ds)
    (stop : ∀ c cs, rest = c :: cs → ¬ c.isDigit) :
    (ds ++ rest).takeWhile Char.isDigit = ds ∧ (ds ++ rest).dropWhile Char.isDigit = rest := by
  rw [List.takeWhile_append_of_pos digits, List.dropWhile_append_of_pos digits]
  cases rest with
  | nil => exact ⟨List.append_nil ds, rfl⟩
  | cons c cs =>
      have other : ¬ c.isDigit := stop c cs rfl
      rw [List.takeWhile_cons_of_neg other, List.dropWhile_cons_of_neg other, List.append_nil]
      exact ⟨rfl, rfl⟩

theorem allDigits_takeWhile (cs : List Char) : AllDigits (cs.takeWhile Char.isDigit) :=
  fun _ mem => List.all_eq_true.1 List.all_takeWhile _ mem

/-! ## The exponent -/

theorem exponent?_cons (c : Char) (rest : List Char) : exponent? (c :: rest) =
    if (c = 'e' ∨ c = 'E') ∧ (Digits.splitSign rest).2 ≠ [] ∧
        (Digits.splitSign rest).2.all Char.isDigit then
      some (Digits.signed (Digits.splitSign rest).1 (Digits.value (Digits.splitSign rest).2))
    else none := rfl

/-- **The exponent** that is read is the one that is written. -/
theorem exponent?_eq_some_iff {cs : List Char} {n : Int} :
    exponent? cs = some n ↔ WritesExponent cs n := by
  constructor
  · intro read
    cases cs with
    | nil =>
        obtain rfl : 0 = n := Option.some.inj read
        exact .none
    | cons c rest =>
        rw [exponent?_cons] at read
        split_ifs at read with form
        obtain ⟨letter, nonempty, digits⟩ := form
        obtain ⟨s, sign, parts⟩ := exists_sign rest
        have written := WritesExponent.letter letter sign nonempty (List.all_eq_true.1 digits)
        rw [← parts, Option.some.inj read] at written
        exact written
  · intro written
    cases written with
    | none => rfl
    | @letter c s ds negative letter sign nonempty digits =>
        have unsigned := unsigned_of_digits nonempty digits []
        rw [List.append_nil] at unsigned
        rw [exponent?_cons, splitSign_append sign unsigned]
        exact if_pos ⟨letter, nonempty, List.all_eq_true.2 digits⟩

/-! ## The point -/

/-- What the parts of a decimal write, with the point moved behind the fraction. -/
theorem value_fraction (ds fs : List Char) (n : Int) :
    (Digits.value (ds ++ fs) : ℚ) * 10 ^ (n - fs.length) =
      (Digits.value ds + Digits.value fs / 10 ^ fs.length) * 10 ^ n := by
  have scale : (10 : ℚ) ^ fs.length ≠ 0 := pow_ne_zero _ (by norm_num)
  rw [Digits.value_append, zpow_sub₀ (by norm_num), zpow_natCast]
  push_cast
  field_simp

theorem decimal?_eq {negative : Bool} {text whole fraction rest : List Char}
    (digits : text.takeWhile Char.isDigit = whole)
    (split : splitFraction (text.dropWhile Char.isDigit) = (fraction, rest)) :
    decimal? negative text = if whole = [] ∧ fraction = [] then none
      else (exponent? rest).map fun exponent =>
        .decimal negative (Digits.value (whole ++ fraction)) (exponent - fraction.length) := by
  unfold decimal?
  rw [digits, split]

theorem splitFraction_cases (cs : List Char) :
    (∃ fs rest, cs = '.' :: (fs ++ rest) ∧ AllDigits fs ∧ splitFraction cs = (fs, rest)) ∨
      splitFraction cs = ([], cs) := by
  unfold splitFraction
  split
  · rename_i rest
    exact .inl ⟨rest.takeWhile Char.isDigit, rest.dropWhile Char.isDigit,
      congrArg _ List.takeWhile_append_dropWhile.symm, allDigits_takeWhile rest, rfl⟩
  · exact .inr rfl

/-- What follows a mantissa begins with no digit and no point. -/
theorem WritesExponent.stop {e : List Char} {n : Int} (written : WritesExponent e n) :
    (∀ c cs, e = c :: cs → ¬ c.isDigit) ∧ splitFraction e = ([], e) := by
  cases written with
  | none => exact ⟨nofun, rfl⟩
  | letter letter =>
      rcases letter with rfl | rfl
      · refine ⟨?_, rfl⟩
        rintro _ _ ⟨⟩
        decide
      · refine ⟨?_, rfl⟩
        rintro _ _ ⟨⟩
        decide

/-- **A decimal is read** as a product with the value that it writes. -/
theorem exists_decimal? (negative : Bool) {m e : List Char} {x : ℚ} {n : Int}
    (mantissa : WritesMantissa m x) (exponent : WritesExponent e n) :
    ∃ (d : Nat) (k : Int), decimal? negative (m ++ e) = some (.decimal negative d k) ∧
      d * 10 ^ k = x * 10 ^ n := by
  obtain ⟨stop, noPoint⟩ := exponent.stop
  have read : exponent? e = some n := exponent?_eq_some_iff.2 exponent
  cases mantissa with
  | whole nonempty digits =>
      obtain ⟨taken, dropped⟩ := span_digits digits stop
      rw [← dropped] at noPoint
      have parts : ¬ (m = [] ∧ ([] : List Char) = []) := fun h => nonempty h.1
      refine ⟨Digits.value (m ++ []), n - ([] : List Char).length, ?_, ?_⟩
      · rw [decimal?_eq taken noPoint, if_neg parts, dropped, read]
        rfl
      · rw [List.append_nil, List.length_nil, Nat.cast_zero, sub_zero]
  | @pointed ds fs nonempty digits fraction =>
      have point : ∀ c cs, '.' :: (fs ++ e) = c :: cs → ¬ c.isDigit := by
        rintro _ _ ⟨⟩
        decide
      obtain ⟨taken, dropped⟩ := span_digits digits point
      obtain ⟨fractionTaken, fractionDropped⟩ := span_digits fraction stop
      have split : splitFraction ((ds ++ '.' :: (fs ++ e)).dropWhile Char.isDigit) = (fs, e) := by
        rw [dropped]
        exact Prod.ext fractionTaken fractionDropped
      have parts : ¬ (ds = [] ∧ fs = []) := by
        rwa [← List.append_eq_nil_iff]
      refine ⟨Digits.value (ds ++ fs), n - fs.length, ?_, value_fraction ds fs n⟩
      rw [List.append_assoc, List.cons_append, decimal?_eq taken split, if_neg parts, read]
      rfl

/-- What is read as a decimal is one. -/
theorem of_decimal? {negative : Bool} {text : List Char} {literal : Literal}
    (read : decimal? negative text = some literal) : ∃ m e x n d k, text = m ++ e ∧
      WritesMantissa m x ∧ WritesExponent e n ∧ literal = .decimal negative d k ∧
        (d : ℚ) * 10 ^ k = x * 10 ^ n := by
  have whole := allDigits_takeWhile text
  have parts : text.takeWhile Char.isDigit ++ text.dropWhile Char.isDigit = text :=
    List.takeWhile_append_dropWhile
  rcases splitFraction_cases (text.dropWhile Char.isDigit) with
    ⟨fs, e, behind, fraction, split⟩ | split
  · -- With a point, either side of it may be without digits, but not both.
    rw [decimal?_eq rfl split] at read
    split_ifs at read with empty
    obtain ⟨n, exponent, rfl⟩ := Option.map_eq_some_iff.1 read
    have nonempty : text.takeWhile Char.isDigit ++ fs ≠ [] := by
      rwa [Ne, List.append_eq_nil_iff]
    have text_eq : text = (text.takeWhile Char.isDigit ++ '.' :: fs) ++ e := by
      rw [List.append_assoc, List.cons_append, ← behind, parts]
    exact ⟨_, e, _, n, _, _, text_eq, .pointed nonempty whole fraction,
      exponent?_eq_some_iff.1 exponent, rfl, value_fraction _ fs n⟩
  · rw [decimal?_eq rfl split] at read
    split_ifs at read with empty
    obtain ⟨n, exponent, rfl⟩ := Option.map_eq_some_iff.1 read
    have nonempty : text.takeWhile Char.isDigit ≠ [] := fun none => empty ⟨none, rfl⟩
    refine ⟨_, _, _, n, _, _, parts.symm, .whole nonempty whole,
      exponent?_eq_some_iff.1 exponent, rfl, ?_⟩
    rw [List.append_nil, List.length_nil, Nat.cast_zero, sub_zero]

theorem WritesMantissa.unsigned {m : List Char} {x : ℚ} (mantissa : WritesMantissa m x)
    (rest : List Char) : Unsigned (m ++ rest) := by
  cases mantissa with
  | whole nonempty digits => exact unsigned_of_digits nonempty digits rest
  | @pointed ds fs nonempty digits fraction =>
      cases ds with
      | nil =>
          rintro _ _ ⟨⟩
          decide
      | cons c ds => exact unsigned_of_digit (digits c List.mem_cons_self) _

theorem WritesMantissa.nonneg {m : List Char} {x : ℚ} (mantissa : WritesMantissa m x) : 0 ≤ x := by
  cases mantissa with
  | whole => exact Nat.cast_nonneg _
  | pointed =>
      exact add_nonneg (Nat.cast_nonneg _)
        (div_nonneg (Nat.cast_nonneg _) (pow_nonneg (by norm_num) _))

/-- A literal writes a magnitude. -/
theorem WritesDecimal.nonneg {text : List Char} {negative : Bool} {v : ℚ}
    (written : WritesDecimal text negative v) : 0 ≤ v := by
  cases written with
  | parts _ mantissa => exact mul_nonneg mantissa.nonneg (zpow_nonneg (by norm_num) _)

/-! ## Words -/

/-- Of a digit there is only one case. -/
theorem toLower_digit {c : Char} (digit : c.isDigit) : c.toLower = c := by
  unfold Char.toLower Char.isDigit at *
  grind

/-- The first letter of a word is part of no decimal. -/
structure Letter (c : Char) : Prop where
  notDigit : ¬ c.isDigit
  notPoint : c ≠ '.'
  notSign : c ≠ '+' ∧ c ≠ '-'

theorem letter_of_toLower {c : Char} (lower : c.toLower = 'i' ∨ c.toLower = 'n') : Letter c := by
  refine ⟨fun digit => ?_, ?_, ?_, ?_⟩
  · rw [toLower_digit digit] at lower
    rcases lower with rfl | rfl
    · exact absurd digit (by decide)
    · exact absurd digit (by decide)
  · rintro rfl
    exact absurd lower (by decide)
  · rintro rfl
    exact absurd lower (by decide)
  · rintro rfl
    exact absurd lower (by decide)

theorem decimal?_letter {c : Char} (letter : Letter c) (negative : Bool) (cs : List Char) :
    decimal? negative (c :: cs) = none := by
  have taken : (c :: cs).takeWhile Char.isDigit = [] := List.takeWhile_cons_of_neg letter.notDigit
  have dropped : (c :: cs).dropWhile Char.isDigit = c :: cs :=
    List.dropWhile_cons_of_neg letter.notDigit
  have noPoint : splitFraction (c :: cs) = ([], c :: cs) := by
    rcases splitFraction_cases (c :: cs) with ⟨fs, rest, eq, -, -⟩ | noPoint
    · exact absurd (List.cons.inj eq).1 letter.notPoint
    · exact noPoint
  rw [← dropped] at noPoint
  rw [decimal?_eq taken noPoint]
  exact if_pos ⟨rfl, rfl⟩

section Words

variable {negative : Bool} {w : List Char} {literal : Literal}

theorem word?_eq_some_iff : word? negative w = some literal ↔ IsWord negative w literal := by
  unfold word?
  dsimp only
  constructor
  · intro read
    split_ifs at read with infinite undefined
    · cases read
      exact .infinity infinite
    · cases read
      exact .nan undefined
  · intro word
    cases word with
    | infinity infinite => exact if_pos infinite
    | nan undefined =>
        rw [undefined, if_neg (by decide), if_pos rfl]

/-- A word begins with its first letter. -/
theorem IsWord.exists_letter (word : IsWord negative w literal) :
    ∃ c cs, w = c :: cs ∧ Letter c := by
  have head {i : Char} {rest : List Char} (letter : i = 'i' ∨ i = 'n')
      (lower : w.map Char.toLower = i :: rest) : ∃ c cs, w = c :: cs ∧ Letter c := by
    obtain ⟨c, cs, rfl, rfl, -⟩ := List.map_eq_cons_iff.1 lower
    exact ⟨c, cs, rfl, letter_of_toLower letter⟩
  cases word with
  | infinity infinite =>
      rcases infinite with lower | lower
      · exact head (.inl rfl) lower
      · exact head (.inl rfl) lower
  | nan undefined => exact head (.inr rfl) undefined

end Words

/-! ## Whole literals -/

theorem read?_append {s rest : List Char} {negative : Bool} (sign : WritesSign s negative)
    (unsigned : Unsigned rest) :
    read? (s ++ rest) = (decimal? negative rest).or (word? negative rest) := by
  unfold read?
  rw [splitSign_append sign unsigned]

theorem read?_word {s w : List Char} {negative : Bool} {literal : Literal}
    (sign : WritesSign s negative) (word : IsWord negative w literal) :
    read? (s ++ w) = some literal := by
  obtain ⟨c, cs, rfl, letter⟩ := word.exists_letter
  have unsigned : Unsigned (c :: cs) := by
    rintro _ _ ⟨⟩
    exact letter.notSign
  rw [read?_append sign unsigned, decimal?_letter letter, word?_eq_some_iff.2 word]
  rfl

theorem WritesDecimal.exists_read {text : List Char} {negative : Bool} {v : ℚ}
    (written : WritesDecimal text negative v) :
    ∃ literal, read? text = some literal ∧ RoundsTo negative v literal.round := by
  cases written with
  | @parts s m e _ x n sign mantissa exponent =>
      obtain ⟨d, k, read, value⟩ := exists_decimal? negative mantissa exponent
      refine ⟨.decimal negative d k, ?_, ?_⟩
      · rw [read?_append sign (mantissa.unsigned e), read]
        rfl
      · rw [← value]
        exact roundsTo_ofDecimal negative d k

theorem WritesWord.read {text : List Char} {x : Binary64} (written : WritesWord text x) :
    (read? text).map round = some x := by
  cases written with
  | parts sign word => rw [read?_word sign word, Option.map_some]

/-- What is read is a decimal or a word. -/
theorem written_of_read? {text : List Char} {literal : Literal} (read : read? text = some literal) :
    (∃ negative v, WritesDecimal text negative v ∧ RoundsTo negative v literal.round) ∨
      WritesWord text literal.round := by
  obtain ⟨s, sign, parts⟩ := exists_sign text
  have either : (decimal? (Digits.splitSign text).1 (Digits.splitSign text).2).or
      (word? (Digits.splitSign text).1 (Digits.splitSign text).2) = some literal := read
  generalize (Digits.splitSign text).1 = negative, (Digits.splitSign text).2 = rest
    at sign parts either
  subst parts
  rcases Option.or_eq_some_iff.1 either with decimal | ⟨-, word⟩
  · obtain ⟨m, e, x, n, d, k, rfl, mantissa, exponent, rfl, value⟩ := of_decimal? decimal
    have rounds := roundsTo_ofDecimal negative d k
    rw [value] at rounds
    exact .inl ⟨negative, x * 10 ^ n, .parts sign mantissa exponent, rounds⟩
  · exact .inr (.parts sign (word?_eq_some_iff.1 word))

end Literal

namespace Binary64

open Literal

/-- **The numbers that texts write**: the nearest one to the value of a decimal literal, or
the one that is named by a word. -/
theorem read?_eq_some_iff {text : String} {x : Binary64} : read? text = some x ↔
    (∃ negative v, WritesDecimal text.toList negative v ∧ RoundsTo negative v x) ∨
      WritesWord text.toList x := by
  constructor
  · intro read
    obtain ⟨literal, found, rfl⟩ := Option.map_eq_some_iff.1 read
    exact written_of_read? found
  · rintro (⟨negative, v, written, rounds⟩ | written)
    · obtain ⟨literal, read, rounds'⟩ := written.exists_read
      have same : literal.round = x := rounds'.unique written.nonneg rounds
      exact Option.map_eq_some_iff.2 ⟨literal, read, same⟩
    · exact written.read

end Binary64

end Dashboard
