/-!
# Editing at a caret

A caret stands in front of a character of a text, or behind the last one. It
is given by the number of characters in front of it, so it never stands
inside the bytes of a character.

## Main definitions

* `Text.splitAt` — the text in front of the caret and behind it.
* `Text.insertAt`, `Text.eraseAt` — the two ways to change a text.
-/

namespace Dashboard.Text

/-- The text in front of the caret and the text behind it. A caret past the
end stands behind the last character. -/
def splitAt (text : String) (caret : Nat) : String × String :=
  (String.ofList (text.toList.take caret), String.ofList (text.toList.drop caret))

/-- The text with a character put in at the caret. -/
def insertAt (text : String) (caret : Nat) (c : Char) : String :=
  String.ofList (text.toList.take caret ++ c :: text.toList.drop caret)

/-- The text without the character behind the caret. -/
def eraseAt (text : String) (caret : Nat) : String :=
  String.ofList (text.toList.take caret ++ text.toList.drop (caret + 1))

/-- The two sides of a caret make up the text. -/
theorem splitAt_append (text : String) (caret : Nat) :
    (splitAt text caret).1.toList ++ (splitAt text caret).2.toList = text.toList := by
  simp [splitAt]

@[simp] theorem length_insertAt (text : String) (caret : Nat) (c : Char) :
    (insertAt text caret c).toList.length = text.toList.length + 1 := by
  simp only [insertAt, String.toList_ofList, List.length_append, List.length_take,
    List.length_cons, List.length_drop]
  omega

/-- Erasing takes away one character, unless the caret stands at the end. -/
theorem length_eraseAt {text : String} {caret : Nat} (h : caret < text.toList.length) :
    (eraseAt text caret).toList.length = text.toList.length - 1 := by
  simp only [eraseAt, String.toList_ofList, List.length_append, List.length_take,
    List.length_drop]
  omega

end Dashboard.Text
