import Dashboard.ServerStatus
import Mathlib.Tactic.SplitIfs

/-!
# Items joined as in a sentence

A joined list can be taken apart again if every item is one word: not empty, and without
a space or a comma.

## The fact the module rests on

An item ends at the first space or comma behind its beginning, and the character there
says what follows: behind a comma there are at least two more items, behind a space
there is the last one, and at the end of the text there is none.  So the last item needs
no look at its characters, and it may be the joining word itself.

## Main definitions

* `IsOneWord` — the items that can be told apart.
* `itemsOf` — the items of a joined list, from its text.

## Main results

* `itemsOf_joinList` — the items are found again, with their number and their order.
* `joinList_inj` — different lists have different texts.
-/

namespace Dashboard

/-- Whether an item is one word: not empty, and without a space or a comma. -/
def IsOneWord (item : String) : Prop :=
  item ≠ "" ∧ ∀ c ∈ item.toList, c ≠ ' ' ∧ c ≠ ','

instance (item : String) : Decidable (IsOneWord item) :=
  have := List.decidableBAll (fun c => c ≠ ' ' ∧ c ≠ ',') item.toList
  instDecidableAnd

/-- The items that are left of a text, of which the first has begun already. -/
def itemsFrom (begun : List Char) : List Char → List String
  | [] => [String.ofList begun]
  | ',' :: ' ' :: rest => String.ofList begun :: itemsFrom [] rest
  | ' ' :: 'a' :: 'n' :: 'd' :: ' ' :: last => [String.ofList begun, String.ofList last]
  | c :: rest => itemsFrom (begun ++ [c]) rest

/-- The items of a joined list. -/
def itemsOf (text : String) : List String :=
  if text = "" then [] else itemsFrom [] text.toList

/-- An item goes on up to a space or a comma. -/
theorem itemsFrom_append {word : List Char} (inside : ∀ c ∈ word, c ≠ ' ' ∧ c ≠ ',')
    (begun rest : List Char) : itemsFrom begun (word ++ rest) = itemsFrom (begun ++ word) rest := by
  induction word generalizing begun with
  | nil => rw [List.nil_append, List.append_nil]
  | cons c word ih =>
      obtain ⟨space, comma⟩ := inside c List.mem_cons_self
      have step : itemsFrom begun (c :: (word ++ rest)) =
          itemsFrom (begun ++ [c]) (word ++ rest) := by
        rw [itemsFrom]
        · intro _ eq
          exact absurd eq comma
        · intro _ eq
          exact absurd eq space
      rw [List.cons_append, step, ih (fun d mem => inside d (List.mem_cons_of_mem c mem)),
        List.append_assoc, List.singleton_append]

/-- **One item and what follows it.** -/
theorem itemsFrom_item {item : String} (word : IsOneWord item) (rest : List Char) :
    itemsFrom [] (item.toList ++ rest) = itemsFrom item.toList rest := by
  rw [itemsFrom_append word.2, List.nil_append]

theorem itemsFrom_joinList {items : List String} (nonempty : items ≠ [])
    (words : ∀ item ∈ items, IsOneWord item) : itemsFrom [] (joinList items).toList = items := by
  fun_induction joinList items with
  | case1 => exact absurd rfl nonempty
  | case2 only =>
      have word : IsOneWord only := words only List.mem_cons_self
      have item := itemsFrom_item word []
      rw [List.append_nil] at item
      rw [item, itemsFrom, String.ofList_toList]
  | case3 first last =>
      have word : IsOneWord first := words first List.mem_cons_self
      rw [String.toList_append, String.toList_append, List.append_assoc, itemsFrom_item word]
      show [String.ofList first.toList, String.ofList last.toList] = _
      rw [String.ofList_toList, String.ofList_toList]
  | case4 first rest single pair ih =>
      have word : IsOneWord first := words first List.mem_cons_self
      have others : itemsFrom [] (joinList rest).toList = rest :=
        ih single fun item mem => words item (List.mem_cons_of_mem first mem)
      rw [String.toList_append, String.toList_append, List.append_assoc, itemsFrom_item word]
      show String.ofList first.toList :: itemsFrom [] (joinList rest).toList = _
      rw [String.ofList_toList, others]

/-- **A joined list is taken apart again**, into the same items in the same order. -/
theorem itemsOf_joinList {items : List String} (words : ∀ item ∈ items, IsOneWord item) :
    itemsOf (joinList items) = items := by
  by_cases none : items = []
  · rw [none]
    rfl
  have found : itemsFrom [] (joinList items).toList = items := itemsFrom_joinList none words
  unfold itemsOf
  split_ifs with empty
  · -- An empty text would be the text of an item that is empty.
    rw [empty] at found
    have item : "" ∈ items := by
      rw [← found]
      exact List.mem_singleton_self _
    exact absurd rfl (words "" item).1
  · exact found

/-- **Different lists have different texts.** -/
theorem joinList_inj {items others : List String} (words : ∀ item ∈ items, IsOneWord item)
    (words' : ∀ item ∈ others, IsOneWord item) :
    joinList items = joinList others ↔ items = others := by
  constructor
  · intro same
    calc items = itemsOf (joinList items) := (itemsOf_joinList words).symm
      _ = itemsOf (joinList others) := by rw [same]
      _ = others := itemsOf_joinList words'
  · intro same
    rw [same]

/-- The joining word may be an item, at any place. -/
theorem joinList_inj_joining_word :
    (∀ item ∈ ["and", "and", "and"], IsOneWord item) ∧
      (∀ item ∈ ["and", "and"], IsOneWord item) ∧
        joinList ["and", "and", "and"] = "and, and and and" ∧
          joinList ["and", "and"] = "and and and" ∧
            joinList ["and", "and", "and"] ≠ joinList ["and", "and"] := by
  have three : ∀ item ∈ ["and", "and", "and"], IsOneWord item := by decide
  have two : ∀ item ∈ ["and", "and"], IsOneWord item := by decide
  refine ⟨three, two, rfl, rfl, ?_⟩
  rw [Ne, joinList_inj three two]
  decide

end Dashboard
