import Dashboard.Json.Number
import Dashboard.Proofs.Json.Outcome

/-!
# Reading numbers

The reader of numbers takes as many digits as there are, while the grammar may
leave some of them to what follows.  The two agree where nothing follows that
could go on with the number, and that is how values end in a text.

## Main definitions

* `Json.Ends` — a text that does not go on with a number.

## Main results

* `Json.exists_of_number` — what is read is a number.
* `Json.exists_number` — a number is read, if it ends there.
-/

namespace Dashboard.Json

open Utf8 (bytes bytes_cons_ascii bytes_eq_append bytes_eq_cons)

/-- Whether a text begins with no character that `p` picks. -/
def Avoids (p : Char → Prop) (cs : List Char) : Prop := ∀ c ds, cs = c :: ds → ¬ p c

/-- Whether a character goes on with a number. -/
def GoesOn (c : Char) : Prop := c.isDigit ∨ c = '.' ∨ c = 'e' ∨ c = 'E'

/-- Whether a text does not go on with a number. -/
def Ends (cs : List Char) : Prop := Avoids GoesOn cs

theorem Avoids.mono {p q : Char → Prop} {cs : List Char} (h : Avoids p cs)
    (sub : ∀ c, q c → p c) : Avoids q cs := fun c ds eq picked => h c ds eq (sub c picked)

theorem avoids_nil {p : Char → Prop} : Avoids p [] := fun _ _ eq =>
  absurd eq.symm (List.cons_ne_nil _ _)

theorem avoids_cons {p : Char → Prop} {c : Char} {cs : List Char} (h : ¬ p c) :
    Avoids p (c :: cs) := fun _ _ eq => (List.cons.inj eq).1 ▸ h

/-! ## Digits -/

theorem ascii_of_isDigit {c : Char} (digit : c.isDigit) : c.toNat < 0x80 := by
  simp only [Char.isDigit, ge_iff_le, Bool.and_eq_true, decide_eq_true_eq,
    UInt32.le_iff_toNat_le] at digit
  exact Nat.lt_of_le_of_lt digit.2 (by decide)

theorem isDigit_ofNat {c : Char} (ascii : c.toNat < 0x80) :
    isDigit (UInt8.ofNat c.toNat) = c.isDigit := by
  rw [Bool.eq_iff_iff]
  simp only [isDigit, Char.isDigit, Bool.and_eq_true, decide_eq_true_eq, UInt8.le_iff_toNat_le,
    UInt32.le_iff_toNat_le, ge_iff_le, Utf8.toNat_ofNat_ascii ascii]
  rfl

theorem isDigit_of_le {b : UInt8} (high : 0x80 ≤ b) : isDigit b = false := by
  rw [UInt8.le_iff_toNat_le] at high
  simp only [isDigit, Bool.and_eq_false_iff, decide_eq_false_iff_not, UInt8.le_iff_toNat_le]
  exact .inr fun le => absurd (Nat.le_trans high le) (by decide)

theorem lt_of_isDigit {b : UInt8} (digit : isDigit b) : b < 0x80 := by
  rw [← UInt8.not_le]
  exact fun high => Bool.eq_false_iff.1 (isDigit_of_le high) digit

theorem dropDigits_bytes (cs : List Char) :
    dropDigits (bytes cs) = bytes (cs.dropWhile Char.isDigit) :=
  Utf8.dropWhile_bytes
    (fun _ wide => Bool.eq_false_iff.2 fun digit =>
      absurd (ascii_of_isDigit digit) (Nat.not_lt.2 wide))
    (fun _ high => isDigit_of_le high) (fun _ ascii => isDigit_ofNat ascii) cs

theorem takeDigits_bytes (cs : List Char) :
    takeDigits (bytes cs) = bytes (cs.takeWhile Char.isDigit) :=
  Utf8.takeWhile_bytes
    (fun _ wide => Bool.eq_false_iff.2 fun digit =>
      absurd (ascii_of_isDigit digit) (Nat.not_lt.2 wide))
    (fun _ high => isDigit_of_le high) (fun _ ascii => isDigit_ofNat ascii) cs

theorem digits_dropWhile (cs : List Char) : Digits cs (cs.dropWhile Char.isDigit) := by
  induction cs with
  | nil => exact .none
  | cons c cs ih =>
    rw [List.dropWhile_cons]
    split
    · next digit => exact .digit digit ih
    · exact .none

/-- Digits in front of what is none are all taken. -/
theorem dropWhile_of_digits {cs ds : List Char} (digits : Digits cs ds)
    (stop : Avoids (·.isDigit) ds) : cs.dropWhile Char.isDigit = ds := by
  induction digits with
  | none =>
    rename_i ds
    cases ds with
    | nil => rfl
    | cons c ds => rw [List.dropWhile_cons, if_neg (stop c ds rfl)]
  | digit digit _ ih => rw [List.dropWhile_cons, if_pos digit, ih stop]

theorem dropDigits_of_digits {cs ds : List Char} (digits : Digits cs ds)
    (stop : Avoids (·.isDigit) ds) : dropDigits (bytes cs) = bytes ds := by
  rw [dropDigits_bytes, dropWhile_of_digits digits stop]

/-- A first byte that is a digit is a character that is one. -/
theorem exists_digit {cs : List Char} {b : UInt8} {r : Bytes} (eq : bytes cs = b :: r)
    (digit : isDigit b) :
    ∃ c ds, cs = c :: ds ∧ c.isDigit ∧ UInt8.ofNat c.toNat = b ∧ bytes ds = r := by
  obtain ⟨c, ds, rfl, ascii, rfl, rest⟩ := bytes_eq_cons eq (lt_of_isDigit digit)
  exact ⟨c, ds, rfl, by rwa [← isDigit_ofNat ascii], rfl, rest⟩

/-- Either no digit comes next, or there are some to take. -/
theorem takeDigits_cases (cs : List Char) :
    (takeDigits (bytes cs)).isEmpty = true ∧ Avoids (·.isDigit) cs ∨
      (takeDigits (bytes cs)).isEmpty = false ∧ SomeDigits cs (cs.dropWhile Char.isDigit) := by
  rw [takeDigits_bytes]
  cases cs with
  | nil => exact .inl ⟨rfl, avoids_nil⟩
  | cons c cs =>
    rw [List.takeWhile_cons, List.dropWhile_cons]
    by_cases digit : c.isDigit
    · refine .inr ⟨?_, ?_⟩
      · rw [if_pos digit, bytes_cons_ascii (ascii_of_isDigit digit)]
        rfl
      · rw [if_pos digit]
        exact ⟨c, cs, rfl, digit, digits_dropWhile cs⟩
    · rw [if_neg digit]
      exact .inl ⟨rfl, avoids_cons digit⟩

/-! ## The parts of a number -/

/-- What a reader that may read nothing leaves. -/
def left? {α : Type} {s : Bytes} : Except Failure (Span s α) → Option Bytes
  | .ok span => some span.rest
  | .error _ => none

/-- A number is read part by part. -/
theorem left_number (cause : Cause) (s : Bytes) :
    (outcome? (number cause s)).map (·.2) =
      (outcome? (wholeDigits cause (minus s).rest)).bind fun whole =>
        (left? (fractionDigits cause whole.2)).bind fun r => left? (exponentDigits cause r) := by
  rw [number]
  obtain ⟨negative, r, shorter⟩ := minus s
  show (outcome? (wholeDigits cause r >>= _)).map _ = _
  cases wholeDigits cause r with
  | error f => rfl
  | ok whole =>
    show (outcome? (fractionDigits cause whole.rest >>= _)).map _ = _
    rw [outcome?_ok, Option.bind_some]
    cases fractionDigits cause whole.rest with
    | error f => rfl
    | ok fraction =>
      show (outcome? (exponentDigits cause fraction.rest >>= _)).map _ = _
      rw [left?, Option.bind_some]
      cases exponentDigits cause fraction.rest <;> rfl

theorem minus_of_ne {s : Bytes} (ne : ∀ r, s ≠ 0x2D :: r) : (minus s).rest = s := by
  rw [minus.eq_2 s ne]

theorem exists_of_minus (cs : List Char) :
    ∃ ds, Minus cs ds ∧ bytes ds = (minus (bytes cs)).rest := by
  by_cases sign : ∃ r, bytes cs = 0x2D :: r
  · obtain ⟨r, eq⟩ := sign
    obtain ⟨ds, rfl, rest⟩ := bytes_eq_append (w := ['-']) eq
    exact ⟨ds, .inr rfl, by rw [eq]; exact rest⟩
  · exact ⟨cs, .inl rfl, (minus_of_ne fun r eq => sign ⟨r, eq⟩).symm⟩

theorem exists_of_whole {cause : Cause} {cs : List Char} {p : Bytes × Bytes}
    (read : outcome? (wholeDigits cause (bytes cs)) = some p) :
    ∃ ds, Whole cs ds ∧ bytes ds = p.2 := by
  cases eq : bytes cs with
  | nil => rw [eq] at read; cases read
  | cons b r =>
    rw [eq, wholeDigits] at read
    split at read
    · next zero =>
      obtain ⟨ds, rfl, rest⟩ := bytes_eq_append (w := ['0']) (eq.trans (by rw [zero]; rfl))
      split at read
      · cases read
        exact ⟨ds, .inl rfl, rest⟩
      · cases read
    · next nonzero =>
      split at read
      · next digit =>
        cases read
        obtain ⟨c, ds, rfl, isDigit, rfl, rest⟩ := exists_digit eq digit
        refine ⟨_, .inr ⟨c, ds, rfl, isDigit, fun zero => nonzero ?_, digits_dropWhile ds⟩, ?_⟩
        · rw [zero]; rfl
        · rw [← dropDigits_bytes, rest]
      · cases read

theorem exists_of_fraction {cause : Cause} {cs : List Char} {r : Bytes}
    (read : left? (fractionDigits cause (bytes cs)) = some r) :
    ∃ ds, Fraction cs ds ∧ bytes ds = r := by
  by_cases point : ∃ t, bytes cs = 0x2E :: t
  · obtain ⟨t, eq⟩ := point
    obtain ⟨ds, rfl, rest⟩ := bytes_eq_append (w := ['.']) eq
    rw [eq, fractionDigits.eq_1, ← rest] at read
    rcases takeDigits_cases ds with ⟨none, _⟩ | ⟨some, digits⟩
    · rw [if_pos none] at read
      cases read
    · rw [if_neg (by rw [some]; decide)] at read
      cases read
      exact ⟨_, .inr ⟨ds, rfl, digits⟩, (dropDigits_bytes ds).symm⟩
  · rw [fractionDigits.eq_2 _ _ fun t eq => point ⟨t, eq⟩] at read
    cases read
    exact ⟨cs, .inl rfl, rfl⟩

theorem left_exponent_cons (cause : Cause) (b : UInt8) (r : Bytes) :
    left? (exponentDigits cause (b :: r)) =
      if b = 0x65 ∨ b = 0x45 then
        match (exponentSign r).rest with
        | [] => none
        | d :: t => if isDigit d then some (dropDigits t) else none
      else some (b :: r) := by
  rw [exponentDigits.eq_2]
  split
  · obtain ⟨negative, t, notLonger⟩ := exponentSign r
    cases t with
    | nil => rfl
    | cons d t =>
      by_cases digit : isDigit d = true
      · simp only [digit, ↓reduceIte]
        rfl
      · simp only [digit, Bool.false_eq_true, ↓reduceIte]
        rfl
  · rfl

theorem exponentSign_of_ne {s : Bytes} (plus : ∀ r, s ≠ 0x2B :: r) (minus : ∀ r, s ≠ 0x2D :: r) :
    (exponentSign s).rest = s := by
  rw [exponentSign.eq_3 s plus minus]

theorem exists_of_exponentSign (cs : List Char) :
    ∃ ds, (cs = ds ∨ cs = '+' :: ds ∨ cs = '-' :: ds) ∧
      bytes ds = (exponentSign (bytes cs)).rest := by
  by_cases plus : ∃ r, bytes cs = 0x2B :: r
  · obtain ⟨r, eq⟩ := plus
    obtain ⟨ds, rfl, rest⟩ := bytes_eq_append (w := ['+']) eq
    exact ⟨ds, .inr (.inl rfl), by rw [eq]; exact rest⟩
  by_cases minus : ∃ r, bytes cs = 0x2D :: r
  · obtain ⟨r, eq⟩ := minus
    obtain ⟨ds, rfl, rest⟩ := bytes_eq_append (w := ['-']) eq
    exact ⟨ds, .inr (.inr rfl), by rw [eq]; exact rest⟩
  · exact ⟨cs, .inl rfl,
      (exponentSign_of_ne (fun r eq => plus ⟨r, eq⟩) fun r eq => minus ⟨r, eq⟩).symm⟩

theorem exists_of_exponent {cause : Cause} {cs : List Char} {r : Bytes}
    (read : left? (exponentDigits cause (bytes cs)) = some r) :
    ∃ ds, Exponent cs ds ∧ bytes ds = r := by
  cases eq : bytes cs with
  | nil =>
    rw [eq] at read
    cases read
    exact ⟨cs, .inl rfl, eq⟩
  | cons b t =>
    rw [eq, left_exponent_cons] at read
    split at read
    · next letter =>
      obtain ⟨e, ds, rfl, isLetter, rest⟩ :
          ∃ e ds, cs = e :: ds ∧ (e = 'e' ∨ e = 'E') ∧ bytes ds = t := by
        rcases letter with rfl | rfl
        · obtain ⟨ds, rfl, rest⟩ := bytes_eq_append (w := ['e']) eq
          exact ⟨'e', ds, rfl, .inl rfl, rest⟩
        · obtain ⟨ds, rfl, rest⟩ := bytes_eq_append (w := ['E']) eq
          exact ⟨'E', ds, rfl, .inr rfl, rest⟩
      obtain ⟨fs, sign, behind⟩ := exists_of_exponentSign ds
      rw [← rest, ← behind] at read
      cases first : bytes fs with
      | nil => rw [first] at read; cases read
      | cons d u =>
        rw [first] at read
        by_cases digit : isDigit d = true
        · obtain ⟨c, gs, rfl, isDigit, _, left⟩ := exists_digit first digit
          simp only [digit, ↓reduceIte, Option.some.injEq] at read
          refine ⟨_, .inr ⟨e, ds, c :: gs, rfl, isLetter, sign, c, gs, rfl, isDigit,
            digits_dropWhile gs⟩, ?_⟩
          rw [← read, ← left, dropDigits_bytes]
        · simp only [digit, Bool.false_eq_true, ↓reduceIte, reduceCtorEq] at read
    · cases read
      exact ⟨cs, .inl rfl, eq⟩

/-- What is read is a number. -/
theorem exists_of_number {cause : Cause} {cs : List Char} {p : Number × Bytes}
    (read : outcome? (number cause (bytes cs)) = some p) :
    ∃ ds, IsNumber cs ds ∧ bytes ds = p.2 := by
  have parts := congrArg (Option.map (·.2)) read
  rw [left_number] at parts
  obtain ⟨a, minus, ha⟩ := exists_of_minus cs
  rw [← ha] at parts
  obtain ⟨w, whole, parts⟩ := Option.bind_eq_some_iff.1 parts
  obtain ⟨b, whole, hb⟩ := exists_of_whole whole
  rw [← hb] at parts
  obtain ⟨r, fraction, parts⟩ := Option.bind_eq_some_iff.1 parts
  obtain ⟨c, fraction, hc⟩ := exists_of_fraction fraction
  rw [← hc] at parts
  obtain ⟨ds, exponent, hd⟩ := exists_of_exponent parts
  exact ⟨ds, ⟨a, b, c, minus, whole, fraction, exponent⟩, hd⟩

/-! ## Numbers that end -/

theorem bytes_ne_cons {cs : List Char} {w : Char} (h : Avoids (· = w) cs) (ascii : w.toNat < 0x80)
    (r : Bytes) : bytes cs ≠ UInt8.ofNat w.toNat :: r := fun eq => by
  obtain ⟨ds, rfl, _⟩ := bytes_eq_append (w := [w])
    (eq.trans (by rw [bytes_cons_ascii ascii]; rfl))
  exact h w ds rfl rfl

theorem left_whole (cause : Cause) {cs ds : List Char} (whole : Whole cs ds)
    (stop : Avoids (·.isDigit) ds) :
    ∃ w, outcome? (wholeDigits cause (bytes cs)) = some (w, bytes ds) := by
  rcases whole with rfl | ⟨c, es, rfl, digit, nonzero, digits⟩
  · refine ⟨[0x30], ?_⟩
    rcases takeDigits_cases ds with ⟨none, _⟩ | ⟨_, c, es, rfl, digit, _⟩
    · show outcome? (wholeDigits cause (0x30 :: bytes ds)) = _
      rw [wholeDigits, if_pos rfl, if_pos none]
      rfl
    · exact absurd digit (stop c es rfl)
  · have ascii := ascii_of_isDigit digit
    refine ⟨UInt8.ofNat c.toNat :: takeDigits (bytes es), ?_⟩
    rw [bytes_cons_ascii ascii, wholeDigits, if_neg, if_pos (by rwa [isDigit_ofNat ascii])]
    · exact congrArg (fun r => some (_, r)) (dropDigits_of_digits digits stop)
    · exact fun zero => nonzero ((Utf8.ofNat_inj_of_ascii ascii (d := '0') (by decide)).1 zero)

theorem left_fraction {cause : Cause} {cs ds : List Char} (fraction : Fraction cs ds)
    (stop : Avoids (fun c => c.isDigit ∨ c = '.') ds) :
    left? (fractionDigits cause (bytes cs)) = some (bytes ds) := by
  rcases fraction with rfl | ⟨es, rfl, c, fs, rfl, digit, digits⟩
  · rw [fractionDigits.eq_2 _ _ fun r =>
      bytes_ne_cons (w := '.') (stop.mono fun c h => .inr h) (by decide) r]
    rfl
  · rcases takeDigits_cases (c :: fs) with ⟨_, none⟩ | ⟨some, _⟩
    · exact absurd digit (none c fs rfl)
    · show left? (fractionDigits cause (0x2E :: bytes (c :: fs))) = _
      rw [fractionDigits.eq_1, if_neg (by rw [some]; decide)]
      exact congrArg Option.some
        (dropDigits_of_digits (.digit digit digits) (stop.mono fun c h => .inl h))

theorem left_exponent {cause : Cause} {cs ds : List Char} (exponent : Exponent cs ds)
    (stop : Avoids (fun c => c.isDigit ∨ c = 'e' ∨ c = 'E') ds) :
    left? (exponentDigits cause (bytes cs)) = some (bytes ds) := by
  rcases exponent with rfl | ⟨e, es, fs, rfl, letter, sign, c, gs, rfl, digit, digits⟩
  · cases eq : bytes cs with
    | nil => rfl
    | cons b r =>
      rw [left_exponent_cons, if_neg]
      rintro (rfl | rfl)
      · exact bytes_ne_cons (w := 'e') (stop.mono fun c h => .inr (.inl h)) (by decide) r eq
      · exact bytes_ne_cons (w := 'E') (stop.mono fun c h => .inr (.inr h)) (by decide) r eq
  · have ascii := ascii_of_isDigit digit
    have behind : (exponentSign (bytes es)).rest = UInt8.ofNat c.toNat :: bytes gs := by
      rcases sign with rfl | rfl | rfl
      · rw [exponentSign_of_ne, bytes_cons_ascii ascii]
        · exact bytes_ne_cons (w := '+') (avoids_cons fun h => by rw [h] at digit; cases digit)
            (by decide)
        · exact bytes_ne_cons (w := '-') (avoids_cons fun h => by rw [h] at digit; cases digit)
            (by decide)
      · exact bytes_cons_ascii ascii gs
      · exact bytes_cons_ascii ascii gs
    have first : bytes (e :: es) = UInt8.ofNat e.toNat :: bytes es :=
      bytes_cons_ascii (by rcases letter with rfl | rfl <;> decide) es
    rw [first, left_exponent_cons, if_pos (by rcases letter with rfl | rfl <;> decide), behind]
    simp only [isDigit_ofNat ascii, digit, ↓reduceIte]
    rw [dropDigits_of_digits digits (stop.mono fun c h => .inl h)]

/-- A number is read where it ends. -/
theorem exists_number (cause : Cause) {cs ds : List Char} (isNumber : IsNumber cs ds)
    (ends : Ends ds) : ∃ n, outcome? (number cause (bytes cs)) = some (n, bytes ds) := by
  obtain ⟨a, b, c, minus, whole, fraction, exponent⟩ := isNumber
  -- What follows each part cannot go on with it.
  have afterFraction : Avoids (fun c => c.isDigit ∨ c = '.') c := by
    rcases exponent with rfl | ⟨e, es, fs, rfl, letter, _⟩
    · exact ends.mono fun c h => h.imp_right .inl
    · exact avoids_cons (by rcases letter with rfl | rfl <;> decide)
  have afterWhole : Avoids (·.isDigit) b := by
    rcases fraction with rfl | ⟨es, rfl, _⟩
    · exact afterFraction.mono fun c h => .inl h
    · exact avoids_cons (by decide)
  have afterMinus : (Json.minus (bytes cs)).rest = bytes a := by
    rcases minus with rfl | rfl
    · refine minus_of_ne (bytes_ne_cons (w := '-') ?_ (by decide))
      rcases whole with rfl | ⟨d, es, rfl, digit, _⟩
      · exact avoids_cons (by decide)
      · exact avoids_cons fun h => by rw [h] at digit; cases digit
    · rfl
  obtain ⟨w, read⟩ := left_whole cause whole afterWhole
  have parts := left_number cause (bytes cs)
  rw [afterMinus, read, Option.bind_some, left_fraction fraction afterFraction, Option.bind_some,
    left_exponent exponent (ends.mono fun c h => h.imp_right .inr)] at parts
  obtain ⟨p, eq, rest⟩ := Option.map_eq_some_iff.1 parts
  exact ⟨p.1, by rw [eq, ← rest]⟩

end Dashboard.Json
