import Dashboard.Text.Caret

/-!
# Carets as byte offsets

A caret counts characters, but a text is a sequence of bytes, and what cuts it,
puts a character in or takes one out is told the offset of a byte.  Each of these
refuses an offset that lies inside the bytes of a character, or past the end.
Here the offset of a caret is computed by going through the characters of the
text, and it is shown that it is never refused, wherever the caret stands, and
that the text comes out as it does if the caret counts characters.

## Main definitions

* `Text.offset` — the offset of the byte at which a caret stands.
* `Text.splitByte?`, `Text.insertByte?`, `Text.removeByte?` — what is done at an
  offset; `none` stands for the refusal.

## Main results

* `Text.splitByte?_offset`, `Text.insertByte?_offset`, `Text.removeByte?_offset`
  — what is done at the offset of a caret.
-/

namespace Dashboard.Text

/-- The characters, each with the offset of its first byte. -/
def charOffsets : List Char → Nat → List (Nat × Char)
  | [], _ => []
  | c :: rest, start => (start, c) :: charOffsets rest (start + c.utf8Size)

/-- The offset of the character behind the caret, or of the end if there is
none. -/
def offset (text : String) (caret : Nat) : Nat :=
  ((charOffsets text.toList 0)[caret]?.map (·.1)).getD text.utf8ByteSize

/-- Whether a character begins or ends at an offset. -/
def IsBoundary (text : String) (byte : Nat) : Prop := (⟨byte⟩ : String.Pos.Raw).IsValid text

instance (text : String) (byte : Nat) : Decidable (IsBoundary text byte) :=
  inferInstanceAs (Decidable (String.Pos.Raw.IsValid _ _))

/-- The two parts of a text at an offset. -/
def splitByte? (text : String) (byte : Nat) : Option (String × String) :=
  if boundary : IsBoundary text byte then
    let pos := text.pos ⟨byte⟩ boundary
    some ((text.sliceTo pos).copy, (text.sliceFrom pos).copy)
  else none

/-- The text with a character put in at an offset. -/
def insertByte? (text : String) (byte : Nat) (c : Char) : Option String :=
  (splitByte? text byte).map fun (before, after) => before ++ String.singleton c ++ after

/-- The text without the character that begins at an offset; at the end there is
none to take out. -/
def removeByte? (text : String) (byte : Nat) : Option String :=
  (splitByte? text byte).bind fun (before, after) =>
    match after.toList with
    | [] => none
    | _ :: rest => some (before ++ String.ofList rest)

/-- Two bytes are one character here, and the offset between them is refused. -/
example : splitByte? "é" 1 = none := by decide +kernel

/-! ## The offset of a caret -/

theorem utf8ByteSize_ofList_cons (c : Char) (cs : List Char) :
    (String.ofList (c :: cs)).utf8ByteSize = c.utf8Size + (String.ofList cs).utf8ByteSize := by
  have split : String.ofList (c :: cs) = String.singleton c ++ String.ofList cs := by
    rw [String.singleton_eq_ofList, ← String.ofList_append]
    rfl
  rw [split, String.utf8ByteSize_append, String.utf8ByteSize_singleton]

/-- The bytes in front of a character are those of the characters in front of
it. -/
theorem charOffsets_getElem? (cs : List Char) (start caret : Nat) :
    ((charOffsets cs start)[caret]?.map (·.1)).getD (start + (String.ofList cs).utf8ByteSize) =
      start + (String.ofList (cs.take caret)).utf8ByteSize := by
  induction cs generalizing start caret with
  | nil => simp [charOffsets]
  | cons c cs ih =>
      cases caret with
      | zero => simp [charOffsets]
      | succ caret =>
          have rest := ih (start + c.utf8Size) caret
          simp only [charOffsets, List.getElem?_cons_succ, List.take_succ_cons,
            utf8ByteSize_ofList_cons, ← Nat.add_assoc]
          exact rest

theorem offset_eq (text : String) (caret : Nat) :
    offset text caret = (splitAt text caret).1.utf8ByteSize := by
  have walked := charOffsets_getElem? text.toList 0 caret
  rw [String.ofList_toList, Nat.zero_add, Nat.zero_add] at walked
  exact walked

/-! ## What is done there -/

theorem append_splitAt (text : String) (caret : Nat) :
    (splitAt text caret).1 ++ (splitAt text caret).2 = text := by
  rw [← String.toList_inj, String.toList_append, splitAt_append]

/-- Where two texts meet, they are cut apart again. -/
theorem splitByte?_append (before after : String) :
    splitByte? (before ++ after) before.utf8ByteSize = some (before, after) := by
  have boundary : IsBoundary (before ++ after) before.utf8ByteSize :=
    String.Pos.Raw.isValid_iff_exists_append.2 ⟨before, after, rfl, rfl⟩
  have meets : ((before ++ after).pos ⟨before.utf8ByteSize⟩ boundary).Splits before after :=
    String.Pos.splits_append_rawEndPos
  obtain ⟨front, back⟩ := (String.Pos.splits _).eq meets
  rw [splitByte?, dif_pos boundary]
  simp only [front, back]

/-- **A caret never stands inside a character**, -/
theorem isBoundary_offset (text : String) (caret : Nat) : IsBoundary text (offset text caret) := by
  refine String.Pos.Raw.isValid_iff_exists_append.2
    ⟨(splitAt text caret).1, (splitAt text caret).2, (append_splitAt text caret).symm, ?_⟩
  rw [offset_eq]
  rfl

/-- the text is cut where it stands, -/
theorem splitByte?_offset (text : String) (caret : Nat) :
    splitByte? text (offset text caret) = some (splitAt text caret) := by
  have cut := splitByte?_append (splitAt text caret).1 (splitAt text caret).2
  rwa [append_splitAt, ← offset_eq] at cut

/-- a character is put in where it stands, -/
theorem insertByte?_offset (text : String) (caret : Nat) (c : Char) :
    insertByte? text (offset text caret) c = some (insertAt text caret c) := by
  rw [insertByte?, splitByte?_offset, Option.map_some, Option.some_inj, ← String.toList_inj]
  simp [splitAt, insertAt]

theorem splitAt_behind {text : String} {caret : Nat} (h : caret < text.toList.length) :
    (splitAt text caret).2 =
      String.ofList (text.toList[caret] :: text.toList.drop (caret + 1)) := by
  rw [splitAt, List.drop_eq_getElem_cons h]

/-- and the character behind it is taken out. -/
theorem removeByte?_offset {text : String} {caret : Nat} (h : caret < text.toList.length) :
    removeByte? text (offset text caret) = some (eraseAt text caret) := by
  rw [removeByte?, splitByte?_offset, Option.bind_some]
  simp only [splitAt_behind h, String.toList_ofList]
  rw [eraseAt, splitAt, String.ofList_append]

/-- The offset of a caret is that of a byte unless the caret stands at the end. -/
theorem offset_lt_iff (text : String) (caret : Nat) :
    offset text caret < text.utf8ByteSize ↔ caret < text.toList.length := by
  have size : text.utf8ByteSize =
      (splitAt text caret).1.utf8ByteSize + (splitAt text caret).2.utf8ByteSize := by
    rw [← String.utf8ByteSize_append, append_splitAt]
  rw [offset_eq, size]
  by_cases h : caret < text.toList.length
  · rw [splitAt_behind h, utf8ByteSize_ofList_cons]
    have := text.toList[caret].utf8Size_pos
    omega
  · have behind : (splitAt text caret).2 = "" := by
      rw [splitAt, List.drop_eq_nil_of_le (by omega), String.ofList_nil]
    simp [behind, h]

end Dashboard.Text
