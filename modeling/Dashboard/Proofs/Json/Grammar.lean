import Dashboard.Json.Text

/-!
# The grammar of JSON

What a JSON text is and what it says, independently of any reader.  A production
relates a text to what is left of it behind the written form, so `Written p cs ds`
says that `cs` begins with a written form of `p` and goes on with `ds`.

A string writes characters and 16-bit units.  Units that are surrogates make a
character in pairs, and the grammar lets them stand alone as well; a string in
which one does says no text, which is the value `text none`.

## Main definitions

* `Json.Value` — what a text says.
* `Json.Item`, `Json.spelledOut` — what stands between quotes, and the text it says.
* `Json.Written` — the productions.
* `Json.IsDocument` — a text that is a value with blanks around it.
* `Json.valuesOf` — the values of a key, in the order in which they are written.
-/

namespace Dashboard.Json

/-! ## Values -/

/-- What a JSON text says.  Numbers are not told apart. -/
inductive Value where
  | null
  | flag (b : Bool)
  | number
  /-- A string; nothing if it has a surrogate without a partner. -/
  | text (t : Option String)
  | list (elements : List Value)
  /-- The members in the order in which they are written. -/
  | object (members : List (Option String × Value))

/-- The members of an object. -/
abbrev Members := List (Option String × Value)

/-- Whether every key says a text. -/
def Keyed (members : Members) : Prop := ∀ m ∈ members, m.1 ≠ none

/-- The values of a key, in the order in which they are written. -/
def valuesOf (key : String) (members : Members) : List Value :=
  (members.filter (·.1 = some key)).map (·.2)

/-! ## Strings -/

/-- What one place of a string writes. -/
inductive Item where
  | char (c : Char)
  | unit (n : Nat)

/-- The characters that items say, if every surrogate among them has its
partner. -/
def spelledOut : List Item → Option (List Char)
  | [] => some []
  | .char c :: items => (spelledOut items).map (c :: ·)
  | .unit n :: items =>
    if isTrailing n then none
    else if isLeading n then
      match items with
      | .unit m :: items =>
        if isTrailing m then (spelledOut items).map (Char.ofNat (pairValue n m) :: ·) else none
      | _ => none
    else (spelledOut items).map (Char.ofNat n :: ·)

/-- The text that items say. -/
def textOf (items : List Item) : Option String := (spelledOut items).map String.ofList

/-- The letters of the short escapes, with the characters they stand for. -/
def letterEscapes : List (Char × Char) :=
  [('"', '"'), ('\\', '\\'), ('/', '/'), ('b', '\x08'), ('f', '\x0C'), ('n', '\n'), ('r', '\r'),
    ('t', '\t')]

/-- The value of a hexadecimal digit. -/
def hexValue? (c : Char) : Option Nat :=
  if '0' ≤ c ∧ c ≤ '9' then some (c.toNat - '0'.toNat)
  else if 'A' ≤ c ∧ c ≤ 'F' then some (c.toNat - 'A'.toNat + 10)
  else if 'a' ≤ c ∧ c ≤ 'f' then some (c.toNat - 'a'.toNat + 10)
  else none

/-- The value of hexadecimal digits, the first one weighing most. -/
def hexUnit? (digits : List Char) : Option Nat :=
  digits.foldlM (fun n c => (hexValue? c).map (16 * n + ·)) 0

/-- The content of a string, and its closing quote. -/
inductive Content : List Item → List Char → List Char → Prop
  | close {ds : List Char} : Content [] ('"' :: ds) ds
  | plain {c : Char} {items : List Item} {cs ds : List Char} : 0x20 ≤ c.toNat → c ≠ '"' →
      c ≠ '\\' → Content items cs ds → Content (.char c :: items) (c :: cs) ds
  | letter {e c : Char} {items : List Item} {cs ds : List Char} : (e, c) ∈ letterEscapes →
      Content items cs ds → Content (.char c :: items) ('\\' :: e :: cs) ds
  | unit {h₁ h₂ h₃ h₄ : Char} {n : Nat} {items : List Item} {cs ds : List Char} :
      hexUnit? [h₁, h₂, h₃, h₄] = some n → Content items cs ds →
      Content (.unit n :: items) ('\\' :: 'u' :: h₁ :: h₂ :: h₃ :: h₄ :: cs) ds

/-! ## Numbers -/

/-- Some digits, perhaps none. -/
inductive Digits : List Char → List Char → Prop
  | none {ds : List Char} : Digits ds ds
  | digit {c : Char} {cs ds : List Char} : c.isDigit → Digits cs ds → Digits (c :: cs) ds

/-- One digit and perhaps more. -/
def SomeDigits (cs ds : List Char) : Prop := ∃ c es, cs = c :: es ∧ c.isDigit ∧ Digits es ds

/-- A minus sign, perhaps. -/
def Minus (cs ds : List Char) : Prop := cs = ds ∨ cs = '-' :: ds

/-- Zero, or digits of which the first is not zero. -/
def Whole (cs ds : List Char) : Prop :=
  cs = '0' :: ds ∨ ∃ c es, cs = c :: es ∧ c.isDigit ∧ c ≠ '0' ∧ Digits es ds

/-- A point and digits, perhaps. -/
def Fraction (cs ds : List Char) : Prop := cs = ds ∨ ∃ es, cs = '.' :: es ∧ SomeDigits es ds

/-- A letter, a sign perhaps, and digits, perhaps. -/
def Exponent (cs ds : List Char) : Prop :=
  cs = ds ∨ ∃ e es fs, cs = e :: es ∧ (e = 'e' ∨ e = 'E') ∧
    (es = fs ∨ es = '+' :: fs ∨ es = '-' :: fs) ∧ SomeDigits fs ds

/-- A number. -/
def IsNumber (cs ds : List Char) : Prop :=
  ∃ a b c, Minus cs a ∧ Whole a b ∧ Fraction b c ∧ Exponent c ds

/-! ## Values and documents -/

/-- The blanks that may stand between any two tokens. -/
def blankChars : List Char := [' ', '\t', '\n', '\r']

/-- Some blanks, perhaps none. -/
inductive Blanks : List Char → List Char → Prop
  | none {ds : List Char} : Blanks ds ds
  | blank {c : Char} {cs ds : List Char} : c ∈ blankChars → Blanks cs ds → Blanks (c :: cs) ds

/-- What stands in front of an element or a member: blanks, and unless it is the
first one a comma and blanks. -/
def Lead (first : Bool) (cs ds : List Char) : Prop :=
  if first then Blanks cs ds else ∃ es, Blanks cs (',' :: es) ∧ Blanks es ds

/-- The parts of a text.  Elements and members are those that are left, and the
closing bracket or brace. -/
inductive Part where
  | value (v : Value)
  | elements (first : Bool) (vs : List Value)
  | members (first : Bool) (ms : Members)

/-- The productions. -/
inductive Written : Part → List Char → List Char → Prop
  | null {ds : List Char} : Written (.value .null) ('n' :: 'u' :: 'l' :: 'l' :: ds) ds
  | true {ds : List Char} : Written (.value (.flag true)) ('t' :: 'r' :: 'u' :: 'e' :: ds) ds
  | false {ds : List Char} :
      Written (.value (.flag false)) ('f' :: 'a' :: 'l' :: 's' :: 'e' :: ds) ds
  | number {cs ds : List Char} : IsNumber cs ds → Written (.value .number) cs ds
  | text {items : List Item} {cs ds : List Char} : Content items cs ds →
      Written (.value (.text (textOf items))) ('"' :: cs) ds
  | list {vs : List Value} {cs ds : List Char} : Written (.elements true vs) cs ds →
      Written (.value (.list vs)) ('[' :: cs) ds
  | object {ms : Members} {cs ds : List Char} : Written (.members true ms) cs ds →
      Written (.value (.object ms)) ('\x7b' :: cs) ds
  | listEnd {first : Bool} {cs ds : List Char} : Blanks cs (']' :: ds) →
      Written (.elements first []) cs ds
  | element {first : Bool} {v : Value} {vs : List Value} {cs ds es fs : List Char} :
      Lead first cs ds → Written (.value v) ds es → Written (.elements false vs) es fs →
      Written (.elements first (v :: vs)) cs fs
  | objectEnd {first : Bool} {cs ds : List Char} : Blanks cs ('\x7d' :: ds) →
      Written (.members first []) cs ds
  | member {first : Bool} {items : List Item} {v : Value} {ms : Members}
      {cs ds es fs gs hs is : List Char} :
      Lead first cs ('"' :: ds) → Content items ds es → Blanks es (':' :: fs) → Blanks fs gs →
      Written (.value v) gs hs → Written (.members false ms) hs is →
      Written (.members first ((textOf items, v) :: ms)) cs is

/-- A JSON text and what it says. -/
def IsDocument (text : String) (v : Value) : Prop :=
  ∃ cs ds, Blanks text.toList cs ∧ Written (.value v) cs ds ∧ Blanks ds []

end Dashboard.Json
