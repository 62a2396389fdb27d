import Dashboard.CommandLine
import Mathlib.Data.List.Nodup
import Mathlib.Tactic.SplitIfs

/-!
# The order of flags

Arguments that give each of some flags once say the same in any order, and however each
value is attached to its flag.

## The fact the module rests on

Reading the arguments of one flag adds its value to those that were given before, and
fails if the flag is among them.  So what was given after some flags depends only on which
flags these are, and an assignment of values to flags that is cut down to the flags that
have come is all that there is to know about the arguments so far.

## Main definitions

* `CommandLine.Flag.Value`, `CommandLine.Flag.Reads` — the values of a flag and the texts
  that write them.
* `CommandLine.Entry` — a flag with its value, in one of two spellings.
* `CommandLine.Spells` — entries for the values of some flags, each flag once.

## Main results

* `CommandLine.seconds_eq_ok_iff` — the texts that write a number of seconds.
* `CommandLine.scan_arguments`, `CommandLine.scan_entries` — the arguments of entries are
  read as their values, one after the other.
* `CommandLine.putAll_entries` — what is given after some entries.
* `CommandLine.parse_any_order` — entries in any order and spelling say the same, and an
  entry that is repeated at any place is refused.
-/

namespace Dashboard.CommandLine

/-! ## Values and the texts that write them -/

/-- The values that a flag may have. -/
def Flag.Value : Flag → Type
  | .baseUrl | .apiKey | .logFile => String
  | .timeoutSecs => Nat
  | .monthlyBudget | .currentUsage => Binary64

/-- Whether a text writes a number of 64 bits: digits, with or without a plus sign. -/
def WritesSeconds (text : String) (n : Nat) : Prop :=
  ∃ digits, (text.toList = digits ∨ text.toList = '+' :: digits) ∧ digits ≠ [] ∧
    (∀ c ∈ digits, c.isDigit) ∧ Digits.value digits = n ∧ n < Nat.pow 2 64

/-- Whether a text writes a value of a flag. -/
def Flag.Reads : (f : Flag) → String → f.Value → Prop
  | .baseUrl, text, value => value = text
  | .apiKey, text, value => value = text
  | .timeoutSecs, text, n => WritesSeconds text n
  | .monthlyBudget, text, x => Amount.read text = .ok x
  | .currentUsage, text, x => Amount.read text = .ok x
  | .logFile, text, value => value = text ∧ text ≠ ""

/-! ### Seconds -/

theorem le_valueFrom (digits : List Char) (start : Nat) :
    start ≤ Digits.valueFrom start digits := by
  induction digits generalizing start with
  | nil => exact Nat.le_refl start
  | cons c digits ih =>
      have later : 10 * start + (c.toNat - '0'.toNat) ≤ Digits.valueFrom start (c :: digits) := ih _
      omega

/-- Digits are read as the number they write, unless it has more than 64 bits. -/
theorem secondsFrom_eq_ok_iff {digits : List Char} {start n : Nat} (small : start < Nat.pow 2 64) :
    secondsFrom start digits = .ok n ↔
      (∀ c ∈ digits, c.isDigit) ∧ Digits.valueFrom start digits = n ∧ n < Nat.pow 2 64 := by
  induction digits generalizing start with
  | nil =>
      simp only [secondsFrom, Digits.valueFrom, List.foldl_nil, Except.ok.injEq]
      constructor
      · rintro rfl
        exact ⟨fun _ mem => absurd mem List.not_mem_nil, rfl, small⟩
      · exact fun ⟨_, eq, _⟩ => eq
  | cons c digits ih =>
      have value : Digits.valueFrom start (c :: digits) =
          Digits.valueFrom (10 * start + (c.toNat - '0'.toNat)) digits := rfl
      by_cases digit : c.isDigit
      · by_cases next : 10 * start + (c.toNat - '0'.toNat) < Nat.pow 2 64
        · simp only [secondsFrom, digit, Bool.not_true, Bool.false_eq_true, if_false, if_pos next]
          rw [ih next, value, List.forall_mem_cons]
          simp only [digit, true_and]
        · simp only [secondsFrom, digit, Bool.not_true, Bool.false_eq_true, if_false, if_neg next]
          refine iff_of_false nofun ?_
          rintro ⟨-, eq, bound⟩
          have later := le_valueFrom digits (10 * start + (c.toNat - '0'.toNat))
          rw [← value, eq] at later
          omega
      · simp only [secondsFrom, digit, Bool.not_false, if_true]
        refine iff_of_false nofun ?_
        rintro ⟨digits, -⟩
        exact digit (digits c List.mem_cons_self)

/-- **Numbers of seconds** are the numbers of 64 bits. -/
theorem seconds_eq_ok_iff {text : String} {n : Nat} :
    seconds text = .ok n ↔ WritesSeconds text n := by
  have plus : ¬ '+'.isDigit := by decide
  have read (digits : List Char) : secondsFrom 0 digits = .ok n ↔
      (∀ c ∈ digits, c.isDigit) ∧ Digits.value digits = n ∧ n < Nat.pow 2 64 :=
    secondsFrom_eq_ok_iff (by decide)
  unfold seconds WritesSeconds
  split
  · next empty =>
      refine iff_of_false nofun ?_
      rintro ⟨digits, rfl | signed, nonempty, -⟩
      · exact nonempty empty
      · rw [empty] at signed
        cases signed
  · next sign =>
      refine iff_of_false nofun ?_
      rintro ⟨digits, rfl | signed, nonempty, digits, -⟩
      · exact plus (digits '+' (sign ▸ List.mem_cons_self))
      · rw [sign] at signed
        exact nonempty (List.cons.inj signed).2.symm
  · next digits alone signed =>
      rw [read digits]
      constructor
      · rintro ⟨all, value, bound⟩
        exact ⟨digits, .inr signed, alone, all, value, bound⟩
      · rintro ⟨_, rfl | signed', -, all, value, bound⟩
        · exact absurd (all '+' (signed ▸ List.mem_cons_self)) plus
        · rw [signed] at signed'
          obtain rfl := (List.cons.inj signed').2
          exact ⟨all, value, bound⟩
  · next empty alone signed =>
      rw [read text.toList]
      constructor
      · rintro ⟨all, value, bound⟩
        exact ⟨text.toList, .inl rfl, empty, all, value, bound⟩
      · rintro ⟨digits, rfl | signed', -, all, value, bound⟩
        · exact ⟨all, value, bound⟩
        · exact absurd signed' (signed digits)

/-! ## Entries and their arguments -/

/-- Whether a value may be an argument of its own: it does not begin with a dash, or it is
a dash and nothing else. -/
def StandsAlone (value : String) : Prop := value = "-" ∨ value.toList.head? ≠ some '-'

/-- A flag with its value. -/
structure Entry where
  flag : Flag
  value : String
  /-- Whether the value is an argument of its own. -/
  isApart : Bool
  standsAlone : isApart = true → StandsAlone value

/-- The arguments of an entry. -/
def Entry.arguments (e : Entry) : List String :=
  if e.isApart then ["--" ++ e.flag.name, e.value] else ["--" ++ e.flag.name ++ "=" ++ e.value]

theorem splitEquals_append {name : List Char} (inside : ∀ c ∈ name, c ≠ '=') (value : List Char) :
    splitEquals (name ++ '=' :: value) = (String.ofList name, some (String.ofList value)) := by
  have picked : ∀ c ∈ name, (c != '=') = true := fun c mem => bne_iff_ne.2 (inside c mem)
  unfold splitEquals
  rw [List.takeWhile_append_of_pos picked, List.dropWhile_append_of_pos picked,
    List.takeWhile_cons_of_neg (by decide), List.dropWhile_cons_of_neg (by decide),
    List.append_nil]

theorem Flag.equals_not_mem_name (f : Flag) : ∀ c ∈ f.name.toList, c ≠ '=' := by
  have free : f.name.toList.all (· != '=') = true := by
    cases f <;> decide
  exact fun c mem => bne_iff_ne.1 (List.all_eq_true.1 free c mem)

theorem Flag.find?_name (f : Flag) : Flag.all.find? (·.name == f.name) = some f := by
  cases f <;> decide

theorem of_name (f : Flag) : Token.of ("--" ++ f.name) = .flag f none := by
  cases f <;> decide

theorem of_name_value (f : Flag) (value : String) :
    Token.of ("--" ++ f.name ++ "=" ++ value) = .flag f (some value) := by
  have chars : ("--" ++ f.name ++ "=" ++ value).toList =
      '-' :: '-' :: (f.name.toList ++ '=' :: value.toList) := by
    simp [String.toList_append]
  have long : longToken (f.name.toList ++ '=' :: value.toList) = .flag f (some value) := by
    simp only [longToken, splitEquals_append f.equals_not_mem_name, String.ofList_toList,
      f.find?_name]
  obtain ⟨c, rest, name⟩ : ∃ c rest, f.name.toList ++ '=' :: value.toList = c :: rest :=
    List.exists_cons_of_ne_nil (by simp)
  rw [name] at chars long
  rw [Token.of, chars]
  exact long

theorem of_value {value : String} (alone : StandsAlone value) : Token.of value = .plain value := by
  rcases alone with rfl | first
  · decide
  unfold Token.of
  split
  · next eq => exact absurd (congrArg List.head? eq) first
  · next eq => exact absurd (congrArg List.head? eq) first
  · next eq => exact absurd (congrArg List.head? eq) first
  · rfl

/-- **The arguments of one entry settle what was pending.**  Its value is pending then if it
stands apart, and is read otherwise. -/
theorem scan_arguments (given : Given) (pending : Option Pending) (e : Entry)
    (rest : List String) :
    scan given pending (e.arguments ++ rest) =
      given.settle pending >>= fun g =>
        if e.isApart then scan g (some ⟨e.flag, some e.value⟩) rest
        else g.put e.flag e.value >>= (scan · none rest) := by
  obtain ⟨flag, value, isApart, standsAlone⟩ := e
  cases isApart with
  | false =>
      show scan given pending (("--" ++ flag.name ++ "=" ++ value) :: rest) = _
      rw [scan.eq_def]
      dsimp only
      rw [of_name_value]
      rfl
  | true =>
      have apart (g : Given) : scan g (some ⟨flag, none⟩) (value :: rest) =
          scan g (some ⟨flag, some value⟩) rest := by
        rw [scan.eq_def]
        dsimp only
        rw [of_value (standsAlone rfl)]
      show scan given pending (("--" ++ flag.name) :: value :: rest) = _
      rw [scan.eq_def]
      dsimp only
      rw [of_name]
      simp only [apart, ↓reduceIte]

/-- Takes the values of entries one by one. -/
def Given.putAll (g : Given) (entries : List Entry) : Except Refusal Given :=
  entries.foldlM (fun g e => g.put e.flag e.value) g

/-- **The arguments of entries are read as their flags with their values**, in their order
and behind a flag whose value may be pending. -/
theorem scan_entries (given : Given) (pending : Option Pending) (entries : List Entry) :
    scan given pending (entries.flatMap Entry.arguments) =
      given.settle pending >>= (·.putAll entries) := by
  induction entries generalizing given pending with
  | nil => exact (bind_pure (given.settle pending)).symm
  | cons e entries ih =>
      rw [List.flatMap_cons, scan_arguments]
      refine congrArg (given.settle pending >>= ·) (funext fun g => ?_)
      have all : g.putAll (e :: entries) = g.put e.flag e.value >>= (·.putAll entries) := rfl
      rw [all]
      split
      · exact ih g _
      · exact congrArg (g.put e.flag e.value >>= ·) (funext fun g' => ih g' none)

/-! ## Values of some flags -/

/-- Values for some of the flags. -/
abbrev Assignment : Type := (f : Flag) → Option f.Value

namespace Assignment

/-- What is given when these values are. -/
def given (a : Assignment) : Given :=
  ⟨a .baseUrl, a .apiKey, a .timeoutSecs, a .monthlyBudget, a .currentUsage, a .logFile⟩

/-- The values of the flags of a list, and no others. -/
def upTo (a : Assignment) (flags : List Flag) : Assignment :=
  fun f => if f ∈ flags then a f else none

theorem has_given (a : Assignment) (f : Flag) : a.given.has f = (a f).isSome := by
  cases f <;> rfl

/-- **A value is added** to those that were given. -/
theorem set_given (a : Assignment) {f : Flag} {text : String} {v : f.Value}
    (reads : f.Reads text v) : a.given.set f text = .ok (given (Function.update a f (some v))) := by
  cases f with
  | baseUrl => subst reads; rfl
  | apiKey => subst reads; rfl
  | timeoutSecs =>
      have read : seconds text = .ok v := seconds_eq_ok_iff.2 reads
      simp only [Given.set, read]
      rfl
  | monthlyBudget =>
      have read : Amount.read text = .ok v := reads
      simp only [Given.set, amount, read]
      rfl
  | currentUsage =>
      have read : Amount.read text = .ok v := reads
      simp only [Given.set, amount, read]
      rfl
  | logFile =>
      obtain ⟨rfl, nonempty⟩ := reads
      exact if_neg nonempty

theorem upTo_concat (a : Assignment) (flags : List Flag) (f : Flag) :
    a.upTo (flags ++ [f]) = Function.update (a.upTo flags) f (a f) := by
  funext g
  by_cases same : g = f
  · subst same
    rw [Function.update_self]
    exact if_pos (List.mem_append_right flags (List.mem_singleton_self g))
  · rw [Function.update_of_ne same]
    unfold upTo
    simp only [List.mem_append, List.mem_singleton, same, or_false]

/-- What a command line says if these values are given: for two of the other flags what the
environment says, and for the rest the defaults. -/
def commandLine (a : Assignment) (env : Environment) : CommandLine where
  baseUrl := match a .baseUrl with
    | some url => some url
    | none => env.baseUrl
  apiKey := match a .apiKey with
    | some key => some key
    | none => env.apiKey
  timeoutSecs := match a .timeoutSecs with
    | some n => n
    | none => 15
  monthlyBudget := match a .monthlyBudget with
    | some x => x
    | none => 80
  currentUsage := match a .currentUsage with
    | some x => x
    | none => 42
  logFile := match a .logFile with
    | some path => path
    | none => "splants-settings.log"

theorem complete_given (a : Assignment) (env : Environment) :
    a.given.complete env = a.commandLine env := by
  unfold given Given.complete commandLine
  cases a .baseUrl <;> cases a .apiKey <;> cases a .timeoutSecs <;> cases a .monthlyBudget <;>
    cases a .currentUsage <;> cases a .logFile <;> rfl

end Assignment

/-! ## Entries in any order -/

/-- Whether an entry writes the value that its flag has. -/
def Entry.Agrees (e : Entry) (a : Assignment) : Prop :=
  ∃ v, a e.flag = some v ∧ e.flag.Reads e.value v

/-- **Entries for the values of some flags**: one for each flag that has a value, and no
others. -/
structure Spells (entries : List Entry) (a : Assignment) : Prop where
  agree : ∀ e ∈ entries, e.Agrees a
  once : (entries.map Entry.flag).Nodup
  complete : ∀ f, (a f).isSome → f ∈ entries.map Entry.flag

section Put

variable {a : Assignment} {done : List Flag} {e : Entry}

theorem put_new (agrees : e.Agrees a) (new : e.flag ∉ done) :
    (a.upTo done).given.put e.flag e.value = .ok (a.upTo (done ++ [e.flag])).given := by
  obtain ⟨v, value, reads⟩ := agrees
  have absent : a.upTo done e.flag = none := if_neg new
  rw [Given.put, Assignment.has_given, absent, Assignment.set_given _ reads, Assignment.upTo_concat,
    value]
  rfl

theorem put_repeated (agrees : e.Agrees a) (old : e.flag ∈ done) :
    (a.upTo done).given.put e.flag e.value = .error (.repeatedFlag e.flag) := by
  obtain ⟨v, value, -⟩ := agrees
  have present : a.upTo done e.flag = some v := (if_pos old).trans value
  rw [Given.put, Assignment.has_given, present]
  rfl

/-- **What is given after some entries** is what their flags have, in any order. -/
theorem putAll_entries {entries : List Entry} (agree : ∀ e ∈ entries, e.Agrees a)
    (once : (done ++ entries.map Entry.flag).Nodup) :
    (a.upTo done).given.putAll entries =
      .ok (a.upTo (done ++ entries.map Entry.flag)).given := by
  induction entries generalizing done with
  | nil =>
      rw [List.map_nil, List.append_nil]
      rfl
  | cons e entries ih =>
      have shifted : done ++ (e :: entries).map Entry.flag =
          (done ++ [e.flag]) ++ entries.map Entry.flag := by
        rw [List.map_cons, List.append_assoc, List.singleton_append]
      have new : e.flag ∉ done := by
        intro old
        exact (List.nodup_append.1 once).2.2 _ old _ List.mem_cons_self rfl
      have others : ∀ e ∈ entries, e.Agrees a := fun d mem => agree d (List.mem_cons_of_mem e mem)
      rw [shifted] at once ⊢
      rw [Given.putAll, List.foldlM_cons, put_new (agree e List.mem_cons_self) new]
      exact ih others once

/-- **A flag that has come before is refused.** -/
theorem putAll_repeated {entries more : List Entry} (agree : ∀ e ∈ entries, e.Agrees a)
    (once : (entries.map Entry.flag).Nodup) (agrees : e.Agrees a)
    (old : e.flag ∈ entries.map Entry.flag) :
    (a.upTo []).given.putAll (entries ++ e :: more) = .error (.repeatedFlag e.flag) := by
  have before : (a.upTo []).given.putAll entries = .ok (a.upTo (entries.map Entry.flag)).given :=
    putAll_entries agree once
  rw [Given.putAll] at before ⊢
  rw [List.foldlM_append, before]
  show (a.upTo _).given.put e.flag e.value >>= _ = _
  rw [put_repeated agrees old]
  rfl

/-- **An entry that comes once more is refused**, at any place. -/
theorem putAll_again {before after : List Entry} {again : Entry}
    (spells : Spells (before ++ after) a) (mem : e ∈ before ++ after) (flag : again.flag = e.flag)
    (value : again.value = e.value) :
    (a.upTo []).given.putAll (before ++ again :: after) = .error (.repeatedFlag e.flag) := by
  have agrees : again.Agrees a := by
    have written := spells.agree e mem
    unfold Entry.Agrees at written ⊢
    rwa [flag, value]
  have first : ∀ d ∈ before, d.Agrees a := fun d earlier =>
    spells.agree d (List.mem_append_left after earlier)
  have once := spells.once
  by_cases old : e ∈ before
  · rw [List.map_append] at once
    rw [← flag]
    refine putAll_repeated first once.of_append_left agrees ?_
    rw [flag]
    exact List.mem_map_of_mem old
  · -- The entry itself comes later, and is refused in place of the one that was put in.
    have later : e ∈ after := (List.mem_append.1 mem).resolve_left old
    obtain ⟨between, behind, rfl⟩ := List.append_of_mem later
    have agree : ∀ d ∈ before ++ again :: between, d.Agrees a := by
      intro d earlier
      rcases List.mem_append.1 earlier with earlier | earlier
      · exact first d earlier
      rcases List.mem_cons.1 earlier with rfl | earlier
      · exact agrees
      · exact spells.agree d (List.mem_append_right before (List.mem_append_left _ earlier))
    have flags : ((before ++ again :: between).map Entry.flag).Nodup := by
      rw [List.map_append, List.map_append, List.map_cons, ← List.append_assoc,
        List.nodup_middle] at once
      rw [List.map_append, List.map_cons, List.nodup_middle, flag]
      exact once.sublist ((List.sublist_append_left _ _).cons_cons e.flag)
    rw [← List.cons_append, ← List.append_assoc]
    refine putAll_repeated agree flags (spells.agree e mem) ?_
    rw [← flag]
    exact List.mem_map_of_mem (List.mem_append_right before List.mem_cons_self)

end Put

/-- **Flags in any order.**  Entries for the values of some flags say these values, and for
the other flags what the environment or the defaults say, in any order and spelling.  If one
of them comes once more, in either spelling and at any place, the arguments are refused. -/
theorem parse_any_order (env : Environment) {a : Assignment} {entries : List Entry}
    (spells : Spells entries a) :
    parse env (entries.flatMap Entry.arguments) = .ok (a.commandLine env) ∧
      ∀ before after, entries = before ++ after → ∀ e ∈ entries,
        ∀ again : Entry, again.flag = e.flag → again.value = e.value →
          parse env ((before ++ again :: after).flatMap Entry.arguments) =
            .error (.repeatedFlag e.flag) := by
  have empty : Given.empty = (a.upTo []).given := rfl
  constructor
  · have all : a.upTo ([] ++ entries.map Entry.flag) = a := by
      funext f
      by_cases given : f ∈ entries.map Entry.flag
      · exact if_pos given
      · have absent : a f = none := Option.not_isSome_iff_eq_none.1 (mt (spells.complete f) given)
        exact (if_neg given).trans absent.symm
    have put : (a.upTo []).given.putAll entries =
        .ok (a.upTo ([] ++ entries.map Entry.flag)).given :=
      putAll_entries spells.agree spells.once
    rw [all] at put
    have read : scan (a.upTo []).given none (entries.flatMap Entry.arguments) = .ok a.given :=
      (scan_entries _ none entries).trans put
    rw [parse, empty, read]
    exact congrArg Except.ok (a.complete_given env)
  · rintro before after rfl e mem again flag value
    have refused :
        scan (a.upTo []).given none ((before ++ again :: after).flatMap Entry.arguments) =
          .error (.repeatedFlag e.flag) :=
      (scan_entries _ none _).trans (putAll_again spells mem flag value)
    rw [parse, empty, refused]
    rfl

/-- A value that looks like a flag, an empty value that beats the environment, and a number
with a sign. -/
theorem parse_any_order_mixed :
    ∃ (entries : List Entry) (a : Assignment), Spells entries a ∧
      entries.flatMap Entry.arguments =
        ["--api-key=--log-file=x", "--timeout-secs", "+030", "--base-url", "",
          "--current-usage=1e2"] ∧
      parse ⟨some "http://h", some "k"⟩
          ["--api-key=--log-file=x", "--timeout-secs", "+030", "--base-url", "",
            "--current-usage=1e2"] =
        .ok ⟨some "", some "--log-file=x", 30, 80, 100, "splants-settings.log"⟩ ∧
      parse ⟨some "http://h", some "k"⟩
          ["--api-key=--log-file=x", "--base-url=", "--timeout-secs", "+030", "--base-url", "",
            "--current-usage=1e2"] =
        .error (.repeatedFlag .baseUrl) := by
  let key : Entry := ⟨.apiKey, "--log-file=x", false, nofun⟩
  let timeout : Entry := ⟨.timeoutSecs, "+030", true, fun _ => .inr (by decide)⟩
  let url : Entry := ⟨.baseUrl, "", true, fun _ => .inr (by decide)⟩
  let usage : Entry := ⟨.currentUsage, "1e2", false, nofun⟩
  let a : Assignment := fun
    | .apiKey => some "--log-file=x"
    | .timeoutSecs => some (30 : Nat)
    | .baseUrl => some ""
    | .currentUsage => some (100 : Binary64)
    | .monthlyBudget | .logFile => none
  have amount : Amount.read "1e2" = .ok 100 := by decide +kernel
  have number : WritesSeconds "+030" 30 :=
    ⟨['0', '3', '0'], .inr rfl, by decide, List.all_eq_true.1 rfl, rfl, by decide⟩
  have spells : Spells [key, timeout, url, usage] a := by
    refine ⟨?_, by decide, ?_⟩
    · simp only [List.forall_mem_cons, List.not_mem_nil, false_imp_iff, implies_true, and_true]
      exact ⟨⟨_, rfl, rfl⟩, ⟨_, rfl, number⟩, ⟨_, rfl, rfl⟩, ⟨_, rfl, amount⟩⟩
    · intro f
      cases f <;> decide
  obtain ⟨read, refused⟩ := parse_any_order ⟨some "http://h", some "k"⟩ spells
  exact ⟨[key, timeout, url, usage], a, spells, rfl, read,
    refused [key] [timeout, url, usage] rfl url (by simp) ⟨.baseUrl, "", false, nofun⟩ rfl rfl⟩

end Dashboard.CommandLine
