import Dashboard.Text.Utf8

/-!
# Hosts

The host of a URL is a name, or an address of four or of sixteen bytes. A name
may be percent-encoded, and it may have characters outside ASCII; its form in
ASCII is what is looked up. A name whose last label is a number is an address of
four bytes, and brackets hold an address of sixteen.

## What comes from outside

Which form in ASCII a name has is laid down in tables that grow with Unicode.
They are not part of this library: the form comes from a function that is handed
in.

## Main definitions

* `Host.shortAddress?`, `Host.longAddress?` — addresses, from their texts.
* `Host.parse?` — the host of a URL, as it is written in the URL.
-/

namespace Dashboard.Client

/-- A rule for the ASCII form of a name, which not every name has. -/
abbrev NameRule : Type := List Char → Option (List Char)

namespace Host

/-! ## Percent-encoding -/

/-- The hexadecimal digit of a value below sixteen. -/
def hexDigit (n : Nat) : Char := if n < 10 then Char.ofNat (48 + n) else Char.ofNat (55 + n)

/-- A byte as a percent sign and two hexadecimal digits. -/
def encodeByte (b : UInt8) : List Char :=
  ['%', hexDigit (b.toNat / 16), hexDigit (b.toNat % 16)]

/-- The characters, where those that `reserved` picks, control characters
and all outside ASCII are percent-encoded. -/
def encode (reserved : List Char) (cs : List Char) : String :=
  String.ofList <| cs.flatMap fun c =>
    if c.toNat < 0x20 ∨ 0x7E < c.toNat ∨ c ∈ reserved then
      (String.utf8EncodeChar c).flatMap encodeByte
    else [c]

/-! ## Numbers -/

/-- The value of a digit, if it is one in this base, which is sixteen at most. -/
def digit? (base : Nat) (c : Char) : Option Nat :=
  let value :=
    if c.isDigit then c.toNat - '0'.toNat
    else if 'a' ≤ c.toLower ∧ c.toLower ≤ 'f' then c.toLower.toNat - 'a'.toNat + 10
    else base
  if value < base then some value else none

/-- The number that digits write in a base; no digits write zero. -/
def number? (base : Nat) (digits : List Char) : Option Nat :=
  (digits.mapM (digit? base)).map fun values => values.foldl (fun n value => base * n + value) 0

/-- The bytes of a text in which bytes are percent-encoded. -/
def decode : List Char → Bytes
  | '%' :: a :: b :: rest =>
    match digit? 16 a, digit? 16 b with
    | some high, some low => UInt8.ofNat (16 * high + low) :: decode rest
    | _, _ => String.utf8EncodeChar '%' ++ decode (a :: b :: rest)
  | c :: rest => String.utf8EncodeChar c ++ decode rest
  | [] => []

/-- Cuts a text at each separator. -/
def cut (separator : Char) (cs : List Char) : List (List Char) :=
  cs.foldr
    (fun c done => match done with
      | [] => if c = separator then [[], []] else [[c]]
      | part :: others =>
        if c = separator then [] :: part :: others else (c :: part) :: others)
    [[]]

/-! ## Addresses of four bytes -/

/-- A part of an address: in hexadecimal behind `0x`, in octal behind a zero,
and else in decimal. -/
def addressPart? : List Char → Option Nat
  | [] => none
  | '0' :: c :: rest => if c = 'x' ∨ c = 'X' then number? 16 rest else number? 8 (c :: rest)
  | digits => number? 10 digits

/-- The labels of a name without an empty one at the end. -/
def labels (name : List Char) : List (List Char) :=
  let all := cut '.' name
  if 1 < all.length ∧ all.getLast? = some [] then all.dropLast else all

/-- Whether a name can only be an address, because its last label is a number. -/
def endsInNumber (name : List Char) : Bool :=
  match (labels name).getLast? with
  | none | some [] => false
  | some last => last.all Char.isDigit || (addressPart? last).isSome

/-- The address of four bytes that a name writes. All parts but the last are one
byte each, and the last one is as many bytes as are left. -/
def shortAddress? (name : List Char) : Option Nat := do
  let parts ← (labels name).mapM addressPart?
  let last ← parts.getLast?
  let first := parts.dropLast
  if parts.length ≤ 4 ∧ (∀ part ∈ first, part < 0x100) ∧
      last * Nat.pow 0x100 first.length < 0x100000000 then
    some (first.foldr (fun part rest => 0x1000000 * part + rest / 0x100) 0 + last)
  else none

/-- The bytes of an address, with points between them. -/
def shortAddress (address : Nat) : String :=
  ".".intercalate
    ([0x1000000, 0x10000, 0x100, 1].map fun unit => toString (address / unit % 0x100))

/-! ## Addresses of sixteen bytes -/

/-- A piece of an address: two bytes in hexadecimal. -/
def piece? (digits : List Char) : Option Nat :=
  if digits ≠ [] ∧ digits.length ≤ 4 then number? 16 digits else none

/-- A byte in decimal, without zeros in front. -/
def byte? (digits : List Char) : Option Nat :=
  if digits.length ≤ 3 ∧ (digits = ['0'] ∨ digits.head? ≠ some '0') then
    (number? 10 digits).filter fun n => digits ≠ [] ∧ n < 256
  else none

/-- The pieces of an address up to its end, where the last two may be written as
four bytes in decimal. -/
def pieces? : List (List Char) → Option (List Nat)
  | [] => some []
  | [last] =>
    match (cut '.' last).mapM byte? with
    | some [a, b, c, d] => some [256 * a + b, 256 * c + d]
    | _ => (piece? last).map ([·])
  | part :: rest => do
    let piece ← piece? part
    let pieces ← pieces? rest
    some (piece :: pieces)

/-- Splits a text at its first two colons in a row. -/
def splitGap? : List Char → Option (List Char × List Char)
  | ':' :: ':' :: rest => some ([], rest)
  | c :: rest => (splitGap? rest).map fun (front, back) => (c :: front, back)
  | [] => none

/-- The eight pieces of the address of sixteen bytes that a text writes. Two
colons in a row stand for the zeros that are missing. -/
def longAddress? (cs : List Char) : Option (List Nat) :=
  match splitGap? cs with
  | none => (pieces? (cut ':' cs)).filter fun pieces => pieces.length = 8
  | some (front, back) => do
    let front ← if front = [] then some [] else (cut ':' front).mapM piece?
    let back ← if back = [] then some [] else pieces? (cut ':' back)
    if front.length + back.length < 8 then
      some (front ++ List.replicate (8 - front.length - back.length) 0 ++ back)
    else none

/-- Where the longest run of zeros begins, the first one of several, and how
long it is. -/
def longestGap (pieces : List Nat) : Nat × Nat :=
  (List.range pieces.length).foldl
    (fun (start, length) place =>
      let here := ((pieces.drop place).takeWhile (· = 0)).length
      if length < here then (place, here) else (start, length))
    (0, 0)

/-- The pieces of an address in hexadecimal, with the longest run of zeros left
out if there is more than one zero in it. -/
def longAddress (pieces : List Nat) : String :=
  let shown (pieces : List Nat) : String :=
    ":".intercalate (pieces.map fun piece => String.ofList (Nat.toDigits 16 piece))
  let (start, length) := longestGap pieces
  if length < 2 then shown pieces
  else shown (pieces.take start) ++ "::" ++ shown (pieces.drop (start + length))

/-! ## Hosts -/

/-- What may not stand in a host. -/
def forbidden : List Char :=
  ['\x00', '\t', '\n', '\r', ' ', '#', '/', ':', '<', '>', '?', '@', '[', '\\', ']', '^', '|']

/-- Whether a character may stand in the ASCII form of a name. -/
def isNameChar (c : Char) : Bool :=
  0x20 < c.toNat && c.toNat < 0x7F && c ≠ '%' && !forbidden.contains c

/-- The host that a name stands for. -/
def ofName? (rule : NameRule) (name : List Char) : Option String := do
  let spelledOut ← Utf8.decode? (decode name)
  let ascii ← rule spelledOut.toList
  if ascii = [] ∨ !ascii.all isNameChar then none
  else if endsInNumber ascii then (shortAddress? ascii).map shortAddress
  else some (String.ofList ascii)

/-- The host of a URL. Where names are not looked up, which `named` says, any
text may be one. -/
def parse? (rule : NameRule) (named : Bool) : List Char → Option String
  | '[' :: rest => do
    if rest.getLast? ≠ some ']' then none
    else do
      let pieces ← longAddress? rest.dropLast
      some ("[" ++ longAddress pieces ++ "]")
  | cs =>
    if named then ofName? rule cs
    else if cs.all fun c => !forbidden.contains c then some (encode [] cs)
    else none

end Host

end Dashboard.Client
