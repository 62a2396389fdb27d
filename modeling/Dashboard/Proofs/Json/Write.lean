import Dashboard.Proofs.Json.Text

/-!
# Writing values

Every value has a text that says it: without blanks, and with strings in the form
in which the dashboard writes them.  A string without a text is written as a
surrogate without a partner.

## Main definitions

* `Json.Value.write` — a text for each value.

## Main results

* `Json.isDocument_of_write` — the text says the value.
* `Json.printable_write` — the text holds no control character.
-/

namespace Dashboard.Json

/-- A string that says a text, or a string that says none. -/
def quoteText : Option String → List Char
  | some t => quote t
  | none => ['"', '\\', 'u', 'd', '8', '0', '0', '"']

/-- What stands in front of an element or a member if nothing is blank. -/
def separator (first : Bool) : List Char := if first then [] else [',']

mutual

/-- A text for each value. -/
def Value.write : Value → List Char
  | .null => ['n', 'u', 'l', 'l']
  | .flag true => ['t', 'r', 'u', 'e']
  | .flag false => ['f', 'a', 'l', 's', 'e']
  | .number => ['0']
  | .text t => quoteText t
  | .list vs => '[' :: writeElements true vs
  | .object ms => '\x7b' :: writeMembers true ms

/-- The elements of a list and its closing bracket. -/
def writeElements : Bool → List Value → List Char
  | _, [] => [']']
  | first, v :: vs => separator first ++ (v.write ++ writeElements false vs)

/-- The members of an object and its closing brace. -/
def writeMembers : Bool → Members → List Char
  | _, [] => ['\x7d']
  | first, (key, v) :: ms =>
    separator first ++ (quoteText key ++ ':' :: (v.write ++ writeMembers false ms))

end

theorem lead_separator (first : Bool) (cs : List Char) : Lead first (separator first ++ cs) cs := by
  cases first with
  | true => exact Blanks.none
  | false => exact ⟨cs, .none, .none⟩

/-- The written form of a string, taken apart at its opening quote. -/
theorem exists_content (t : Option String) (ds : List Char) :
    ∃ items cs, quoteText t ++ ds = '"' :: cs ∧ Content items cs ds ∧ textOf items = t := by
  cases t with
  | none =>
    exact ⟨[.unit 0xD800], _, rfl, .unit rfl .close, rfl⟩
  | some t =>
    obtain ⟨items, content, spells⟩ := content_quote t ds
    refine ⟨items, _, ?_, content, spells⟩
    rw [quoteText, quote, List.cons_append, List.cons_append, List.append_assoc]
    rfl

mutual

/-- The text of a value is one of its written forms. -/
theorem written_write (v : Value) (ds : List Char) : Written (.value v) (v.write ++ ds) ds := by
  match v with
  | .null => exact .null
  | .flag true => exact .true
  | .flag false => exact .false
  | .number => exact .number ⟨_, _, _, .inl rfl, .inl rfl, .inl rfl, .inl rfl⟩
  | .text t =>
    obtain ⟨items, cs, eq, content, spells⟩ := exists_content t ds
    rw [Value.write, eq, ← spells]
    exact .text content
  | .list vs => exact .list (written_elements true vs ds)
  | .object ms => exact .object (written_members true ms ds)

theorem written_elements (first : Bool) (vs : List Value) (ds : List Char) :
    Written (.elements first vs) (writeElements first vs ++ ds) ds := by
  match vs with
  | [] => exact .listEnd .none
  | v :: vs =>
    rw [writeElements, List.append_assoc, List.append_assoc]
    exact .element (lead_separator first _) (written_write v _) (written_elements false vs ds)

theorem written_members (first : Bool) (ms : Members) (ds : List Char) :
    Written (.members first ms) (writeMembers first ms ++ ds) ds := by
  match ms with
  | [] => exact .objectEnd .none
  | (key, v) :: ms =>
    rw [writeMembers, List.append_assoc, List.append_assoc, List.cons_append, List.append_assoc]
    obtain ⟨items, cs, eq, content, spells⟩ :=
      exists_content key (':' :: (v.write ++ (writeMembers false ms ++ ds)))
    rw [eq, ← spells]
    exact .member (lead_separator first _) content .none .none (written_write v _)
      (written_members false ms ds)

end

/-- The text of a value says the value. -/
theorem isDocument_of_write {text : String} {v : Value} (eq : text = String.ofList v.write) :
    IsDocument text v := by
  refine ⟨v.write, [], ?_, by simpa using written_write v [], .none⟩
  rw [eq, String.toList_ofList]
  exact .none

/-! ## Control characters -/

/-- Whether no character is a control character. -/
def Printable (cs : List Char) : Prop := cs.all (0x20 ≤ ·.toNat) = true

theorem printable_append {cs ds : List Char} :
    Printable (cs ++ ds) ↔ Printable cs ∧ Printable ds := by
  rw [Printable, List.all_append, Bool.and_eq_true, Printable, Printable]

theorem printable_cons {c : Char} {cs : List Char} :
    Printable (c :: cs) ↔ 0x20 ≤ c.toNat ∧ Printable cs := by
  rw [Printable, List.all_cons, Bool.and_eq_true, decide_eq_true_iff, Printable]

theorem printable_flatMap {f : Char → List Char} (all : ∀ c, Printable (f c)) (cs : List Char) :
    Printable (cs.flatMap f) := by
  induction cs with
  | nil => rfl
  | cons c cs ih =>
    rw [List.flatMap_cons, printable_append]
    exact ⟨all c, ih⟩

theorem printable_hexDigit {n : Nat} (small : n < 16) : 0x20 ≤ (hexDigit n).toNat := by
  have all : ∀ n < 16, 0x20 ≤ (hexDigit n).toNat := by decide +kernel
  exact all n small

theorem printable_quoteChar (c : Char) : Printable (quoteChar c) := by
  rw [quoteChar]
  split
  · next reserved =>
    rcases reserved with rfl | rfl <;> rfl
  split
  · rfl
  split
  · rfl
  split
  · rfl
  split
  · rfl
  split
  · rfl
  split
  · next control =>
    rw [printable_append, printable_cons, printable_cons]
    exact ⟨rfl, printable_hexDigit (by omega), printable_hexDigit (by omega), rfl⟩
  · next free => exact printable_cons.2 ⟨Nat.le_of_not_lt free, rfl⟩

theorem printable_quoteText (t : Option String) : Printable (quoteText t) := by
  cases t with
  | none => rfl
  | some t =>
    rw [quoteText, quote, printable_append, printable_cons]
    exact ⟨⟨by decide, printable_flatMap printable_quoteChar t.toList⟩, rfl⟩

theorem printable_separator (first : Bool) : Printable (separator first) := by
  cases first <;> rfl

mutual

/-- What is written holds no control character. -/
theorem printable_write (v : Value) : Printable v.write := by
  match v with
  | .null | .flag true | .flag false | .number => rfl
  | .text t => exact printable_quoteText t
  | .list vs => exact printable_cons.2 ⟨by decide, printable_writeElements true vs⟩
  | .object ms => exact printable_cons.2 ⟨by decide, printable_writeMembers true ms⟩

theorem printable_writeElements (first : Bool) (vs : List Value) :
    Printable (writeElements first vs) := by
  match vs with
  | [] => rfl
  | v :: vs =>
    rw [writeElements, printable_append, printable_append]
    exact ⟨printable_separator first, printable_write v, printable_writeElements false vs⟩

theorem printable_writeMembers (first : Bool) (ms : Members) :
    Printable (writeMembers first ms) := by
  match ms with
  | [] => rfl
  | (key, v) :: ms =>
    rw [writeMembers, printable_append, printable_append, printable_cons, printable_append]
    exact ⟨printable_separator first, printable_quoteText key, by decide, printable_write v,
      printable_writeMembers false ms⟩

end

theorem Printable.le {cs : List Char} (printable : Printable cs) {c : Char} (mem : c ∈ cs) :
    0x20 ≤ c.toNat :=
  of_decide_eq_true (List.all_eq_true.1 printable c mem)

end Dashboard.Json
