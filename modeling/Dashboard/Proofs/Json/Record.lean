import Dashboard.Proofs.Json.Lawful

/-!
# Lawful records

What an object says as a record is settled member by member: it depends only on
the values that are written for a member, and not on where they stand or on what
the members are between them.  A list says its elements in the order of the
declaration.  With lawful readers for the members the reader of the record is
lawful again, so records can be members of records.

## Main definitions

* `Json.Record.Described` — lawful members whose keys differ.
* `Json.Record.memberOf?` — what the values of one member say.
* `Json.Record.meaning?` — what a value says as a record.

## Main results

* `Json.Record.object?_eq_some`, `Json.Record.list?_eq_some` — what objects and
  lists say, member by member.
* `Json.Record.Described.lawful_read` — the reader of a record is lawful.
-/

namespace Dashboard.Json.Record

open Utf8 (bytes bytes_cons_ascii)

variable {n : Nat} {α : Fin n → Type} {record : Record α}
  {means : (i : Fin n) → Value → Option (α i)}

/-- A record whose members have keys of their own and lawful readers. -/
structure Described (record : Record α) (means : (i : Fin n) → Value → Option (α i)) : Prop where
  distinct : ∀ i j, (record.member i).key = (record.member j).key → i = j
  lawful : ∀ i, Lawful (record.member i).read (means i)

/-! ## Slots -/

theorem put_self (slots : Slots α) (i : Fin n) (x : α i) : slots.put i x i = some x := by
  rw [Slots.put, dif_pos rfl]

theorem put_ne (slots : Slots α) {i j : Fin n} (x : α i) (ne : i ≠ j) :
    slots.put i x j = slots j := by
  rw [Slots.put, dif_neg ne]

/-- All members, if none is missing. -/
def completed? (record : Record α) (slots : Slots α) : Option ((i : Fin n) → α i) :=
  (record.complete slots).toOption

theorem completed?_eq_some {slots : Slots α} {x : (i : Fin n) → α i} :
    record.completed? slots = some x ↔ ∀ i, record.value? slots i = some (x i) := by
  rw [completed?, complete]
  split
  · next i missing =>
    refine ⟨nofun, fun all => ?_⟩
    have isNone := List.find?_some missing
    rw [all i] at isNone
    cases isNone
  · next complete =>
    refine ⟨fun eq i => ?_, fun all => ?_⟩
    · rw [← Option.some.inj eq]
      exact (Option.some_get _).symm
    · exact congrArg some (funext fun i => Option.get_of_eq_some _ (all i))

theorem find?_eq_some (described : Described record means) {key : String} {i : Fin n} :
    record.find? key = some i ↔ (record.member i).key = key := by
  constructor
  · intro found
    exact beq_iff_eq.1 (List.find?_some (p := fun i => (record.member i).key == key) found)
  · intro same
    cases found : record.find? key with
    | none =>
      have := List.find?_eq_none.1 found i (List.mem_finRange i)
      exact absurd same (by simpa using this)
    | some j =>
      have : (record.member j).key = key :=
        beq_iff_eq.1 (List.find?_some (p := fun i => (record.member i).key == key) found)
      rw [described.distinct j i (this.trans same.symm)]

/-! ## Objects -/

/-- What the slot of a member holds after some values for it, given what it held
before. -/
def slot? (means : (i : Fin n) → Value → Option (α i)) (i : Fin n) :
    Option (α i) → List Value → Option (Option (α i))
  | before, [] => some before
  | none, v :: vs => (means i v).bind fun x => slot? means i (some x) vs
  | some _, _ :: _ => none

/-- The slots after some members. -/
def fill (record : Record α) (means : (i : Fin n) → Value → Option (α i)) :
    Slots α → Members → Option (Slots α)
  | slots, [] => some slots
  | _, (none, _) :: _ => none
  | slots, (some key, v) :: ms =>
    match record.find? key with
    | none => fill record means slots ms
    | some i =>
      if (slots i).isSome then none
      else (means i v).bind fun x => fill record means (slots.put i x) ms

theorem keyed_cons {key : Option String} {v : Value} {ms : Members} :
    Keyed ((key, v) :: ms) ↔ key ≠ none ∧ Keyed ms := by
  simp only [Keyed, List.mem_cons, forall_eq_or_imp]

theorem valuesOf_cons_self (key : String) (v : Value) (ms : Members) :
    valuesOf key ((some key, v) :: ms) = v :: valuesOf key ms := by
  simp [valuesOf]

theorem valuesOf_cons_ne {key other : String} (ne : other ≠ key) (v : Value) (ms : Members) :
    valuesOf key ((some other, v) :: ms) = valuesOf key ms := by
  simp [valuesOf, ne]

/-- A member fills its own slot and passes by the others. -/
theorem slot?_put (described : Described record means) {slots : Slots α} {i : Fin n} {v : Value}
    {x : α i} (empty : slots i = none) (said : means i v = some x) (ms : Members) (j : Fin n) :
    slot? means j (slots j)
        (valuesOf (record.member j).key ((some (record.member i).key, v) :: ms)) =
      slot? means j (slots.put i x j) (valuesOf (record.member j).key ms) := by
  by_cases eq : i = j
  · subst eq
    rw [valuesOf_cons_self, put_self, empty, slot?, said, Option.bind_some]
  · rw [valuesOf_cons_ne (fun same => eq (described.distinct i j same)), put_ne slots x eq]

/-- Members fill each slot on its own. -/
theorem fill_eq_some (described : Described record means) {ms : Members} {slots slots' : Slots α} :
    fill record means slots ms = some slots' ↔
      Keyed ms ∧ ∀ i, slot? means i (slots i) (valuesOf (record.member i).key ms) =
        some (slots' i) := by
  induction ms generalizing slots with
  | nil =>
    show some slots = some slots' ↔ Keyed [] ∧ ∀ i, some (slots i) = some (slots' i)
    constructor
    · intro eq
      refine ⟨fun m mem => absurd mem List.not_mem_nil, fun i => ?_⟩
      rw [Option.some.inj eq]
    · intro ⟨_, eq⟩
      exact congrArg some (funext fun i => Option.some.inj (eq i))
  | cons m ms ih =>
    obtain ⟨_ | key, v⟩ := m
    · exact ⟨nofun, fun ⟨keyed, _⟩ => absurd rfl (keyed_cons.1 keyed).1⟩
    rw [fill, keyed_cons]
    simp only [ne_eq, reduceCtorEq, not_false_iff, true_and]
    cases found : record.find? key with
    | none =>
      have unknown (i : Fin n) : key ≠ (record.member i).key := fun same => by
        rw [(find?_eq_some described).2 same.symm] at found
        cases found
      simp only [valuesOf_cons_ne (unknown _), ih]
    | some i =>
      obtain rfl := (find?_eq_some described).1 found
      simp only
      cases held : slots i with
      | some x =>
        refine ⟨nofun, fun ⟨_, all⟩ => ?_⟩
        have := all i
        rw [valuesOf_cons_self, held] at this
        cases this
      | none =>
        rw [if_neg (by simp)]
        constructor
        · intro eq
          obtain ⟨x, said, eq⟩ := Option.bind_eq_some_iff.1 eq
          obtain ⟨keyed, all⟩ := ih.1 eq
          exact ⟨keyed, fun j => (slot?_put described held said ms j).trans (all j)⟩
        · rintro ⟨keyed, all⟩
          have := all i
          rw [valuesOf_cons_self, held, slot?] at this
          obtain ⟨x, said, _⟩ := Option.bind_eq_some_iff.1 this
          rw [said, Option.bind_some]
          exact ih.2 ⟨keyed, fun j => (slot?_put described held said ms j).symm.trans (all j)⟩

/-- What the values of one member say: its default if there are none. -/
def memberOf? (record : Record α) (means : (i : Fin n) → Value → Option (α i)) (i : Fin n) :
    List Value → Option (α i)
  | [] => (record.member i).absent
  | [v] => means i v
  | _ => none

theorem memberOf?_eq_some {i : Fin n} {vs : List Value} {x : α i} :
    record.memberOf? means i vs = some x ↔
      ∃ held, slot? means i none vs = some held ∧ held.or (record.member i).absent = some x := by
  rcases vs with _ | ⟨v, _ | ⟨w, vs⟩⟩
  · simp [memberOf?, slot?]
  · simp only [memberOf?, slot?]
    cases means i v with
    | none => simp
    | some y => simp
  · simp only [memberOf?, slot?]
    cases means i v with
    | none => simp
    | some y => simp

/-- A member that may not be left out is written once. -/
theorem memberOf?_required {i : Fin n} (required : (record.member i).absent = none)
    {vs : List Value} {x : α i} :
    record.memberOf? means i vs = some x ↔ ∃ v, vs = [v] ∧ means i v = some x := by
  rcases vs with _ | ⟨v, _ | ⟨w, vs⟩⟩ <;> simp [memberOf?, required]

/-- A member with a default is written at most once. -/
theorem memberOf?_default {i : Fin n} {d : α i} (default : (record.member i).absent = some d)
    {vs : List Value} {x : α i} :
    record.memberOf? means i vs = some x ↔
      vs = [] ∧ d = x ∨ ∃ v, vs = [v] ∧ means i v = some x := by
  rcases vs with _ | ⟨v, _ | ⟨w, vs⟩⟩ <;> simp [memberOf?, default]

/-- What an object says as a record. -/
def object? (record : Record α) (means : (i : Fin n) → Value → Option (α i)) (ms : Members) :
    Option ((i : Fin n) → α i) :=
  (fill record means Slots.empty ms).bind record.completed?

/-- An object says a record if all its keys say texts and the values of each
member say one. -/
theorem object?_eq_some (described : Described record means) {ms : Members}
    {x : (i : Fin n) → α i} :
    record.object? means ms = some x ↔ Keyed ms ∧ ∀ i,
      record.memberOf? means i (valuesOf (record.member i).key ms) = some (x i) := by
  simp only [object?, Option.bind_eq_some_iff, fill_eq_some described, completed?_eq_some, value?,
    memberOf?_eq_some]
  constructor
  · rintro ⟨slots, ⟨keyed, filled⟩, values⟩
    exact ⟨keyed, fun i => ⟨slots i, filled i, values i⟩⟩
  · rintro ⟨keyed, all⟩
    refine ⟨fun i => (all i).choose, ⟨keyed, fun i => (all i).choose_spec.1⟩, fun i => ?_⟩
    exact (all i).choose_spec.2

/-! ## Lists -/

/-- The slots after some elements, which are the values of the members that are
still to come. -/
def gather (means : (i : Fin n) → Value → Option (α i)) :
    List (Fin n) → Slots α → List Value → Option (Slots α)
  | _, slots, [] => some slots
  | [], _, _ :: _ => none
  | i :: todo, slots, v :: vs => (means i v).bind fun x => gather means todo (slots.put i x) vs

/-- Elements fill the slots of the members in whose places they stand. -/
theorem gather_eq_some {todo : List (Fin n)} (nodup : todo.Nodup) {vs : List Value}
    {slots slots' : Slots α} :
    gather means todo slots vs = some slots' ↔ vs.length ≤ todo.length ∧
      (∀ i v, (i, v) ∈ todo.zip vs → ∃ x, means i v = some x ∧ slots' i = some x) ∧
      ∀ i, (∀ v, (i, v) ∉ todo.zip vs) → slots' i = slots i := by
  induction vs generalizing todo slots with
  | nil =>
    simp only [gather, List.zip_nil_right, Option.some.injEq, List.not_mem_nil, not_false_iff,
      forall_true_left, implies_true, false_implies, List.length_nil, Nat.zero_le, true_and]
    exact ⟨fun eq i => by rw [eq], fun all => (funext all).symm⟩
  | cons v vs ih =>
    cases todo with
    | nil => simp [gather]
    | cons i todo =>
      obtain ⟨fresh, nodup⟩ := List.nodup_cons.1 nodup
      have notLater : ∀ w, (i, w) ∉ todo.zip vs := fun w mem => fresh (List.of_mem_zip mem).1
      rw [gather, List.zip_cons_cons, List.length_cons, List.length_cons, Nat.add_le_add_iff_right]
      constructor
      · intro eq
        obtain ⟨x, said, eq⟩ := Option.bind_eq_some_iff.1 eq
        obtain ⟨short, filled, others⟩ := (ih nodup).1 eq
        have held : slots' i = some x := by rw [others i notLater, put_self]
        refine ⟨short, fun j w mem => ?_, fun j no => ?_⟩
        · rcases List.mem_cons.1 mem with eq | mem
          · cases eq
            exact ⟨x, said, held⟩
          · exact filled j w mem
        · have ne : i ≠ j := fun eq => no v (by rw [eq]; exact List.mem_cons_self)
          rw [others j fun w mem => no w (List.mem_cons_of_mem _ mem), put_ne slots x ne]
      · rintro ⟨short, filled, others⟩
        obtain ⟨x, said, held⟩ := filled i v List.mem_cons_self
        rw [said, Option.bind_some]
        refine (ih nodup).2 ⟨short, fun j w mem => filled j w (List.mem_cons_of_mem _ mem),
          fun j no => ?_⟩
        by_cases eq : i = j
        · subst eq
          rw [held, put_self]
        · rw [put_ne slots x eq]
          refine others j fun w mem => ?_
          rcases List.mem_cons.1 mem with same | mem
          · exact eq (Prod.mk.inj same).1.symm
          · exact no w mem

/-- What a list says as a record. -/
def list? (record : Record α) (means : (i : Fin n) → Value → Option (α i)) (vs : List Value) :
    Option ((i : Fin n) → α i) :=
  (gather means (List.finRange n) Slots.empty vs).bind record.completed?

theorem mem_zip_finRange {vs : List Value} {i : Fin n} {v : Value} :
    (i, v) ∈ (List.finRange n).zip vs ↔ vs[i.val]? = some v := by
  simp only [List.mem_iff_getElem?, List.getElem?_zip_eq_some]
  constructor
  · rintro ⟨k, first, second⟩
    obtain ⟨bound, eq⟩ := List.getElem?_eq_some_iff.1 first
    rw [← eq, List.getElem_finRange]
    exact second
  · intro second
    refine ⟨i, ?_, second⟩
    rw [List.getElem?_eq_some_iff]
    exact ⟨by simp, by simp⟩

/-- A list says a record if there is no element too many and each says the member
in whose place it stands. -/
theorem list?_eq_some {vs : List Value} {x : (i : Fin n) → α i} :
    record.list? means vs = some x ↔ vs.length ≤ n ∧ ∀ i : Fin n,
      record.memberOf? means i vs[i.val]?.toList = some (x i) := by
  simp only [list?, Option.bind_eq_some_iff, gather_eq_some (List.nodup_finRange n),
    completed?_eq_some, List.length_finRange, mem_zip_finRange]
  constructor
  · rintro ⟨slots, ⟨short, filled, others⟩, values⟩
    refine ⟨short, fun i => ?_⟩
    have value := values i
    cases at' : vs[i.val]? with
    | none =>
      rw [value?, others i (by rw [at']; nofun)] at value
      exact value
    | some v =>
      obtain ⟨y, said, held⟩ := filled i v at'
      rw [value?, held] at value
      exact said.trans value
  · rintro ⟨short, all⟩
    refine ⟨fun i => vs[i.val]?.bind (means i), ⟨short, fun i v at' => ?_, fun i no => ?_⟩,
      fun i => ?_⟩
    · have := all i
      rw [at'] at this
      refine ⟨x i, this, ?_⟩
      show vs[i.val]?.bind (means i) = some (x i)
      rw [at']
      exact this
    · show vs[i.val]?.bind (means i) = none
      cases at' : vs[i.val]? with
      | none => rfl
      | some v => exact absurd at' (no v)
    · have := all i
      rw [value?]
      cases at' : vs[i.val]? with
      | none =>
        rw [at'] at this
        exact this
      | some v =>
        rw [at'] at this
        have said : means i v = some (x i) := this
        rw [Option.bind_some, said]
        rfl

theorem eq_ofFn {vs : List Value} {value : Fin n → Value} (short : vs.length ≤ n)
    (all : ∀ i : Fin n, vs[i.val]? = some (value i)) : vs = List.ofFn value := by
  refine List.ext_getElem? fun k => ?_
  rw [List.getElem?_ofFn]
  split
  · next bound => exact all ⟨k, bound⟩
  · next bound => exact List.getElem?_eq_none (by omega)

/-! ## The reader -/

/-- What a value says as a record. -/
def meaning? (record : Record α) (means : (i : Fin n) → Value → Option (α i)) :
    Value → Option ((i : Fin n) → α i)
  | .object ms => record.object? means ms
  | .list vs => record.list? means vs
  | _ => none

/-- Only objects and lists say records. -/
theorem meaning?_eq_none {v : Value} (notObject : ∀ ms, v ≠ .object ms)
    (notList : ∀ vs, v ≠ .list vs) : record.meaning? means v = none := by
  cases v with
  | object ms => exact absurd rfl (notObject ms)
  | list vs => exact absurd rfl (notList vs)
  | null | flag | number | text => rfl

theorem outcome?_members (first : Bool) (slots : Slots α) (s : Bytes) :
    outcome? (record.members first slots s) = (outcome? (nextKey first s)).bind fun k =>
      match k.1 with
      | none => some (slots, k.2)
      | some key =>
        match record.find? key with
        | none => (outcome? (colon k.2)).bind fun c => (outcome? (skipValue c.2)).bind fun v =>
          outcome? (record.members false slots v.2)
        | some i =>
          if (slots i).isSome then none
          else (outcome? (colon k.2)).bind fun c =>
            (outcome? ((record.member i).read c.2)).bind fun x =>
              outcome? (record.members false (slots.put i x.1) x.2) := by
  rw [members]
  refine outcome?_bind fun ⟨key, r, shorter⟩ => ?_
  cases key with
  | none => rfl
  | some key =>
    simp only
    cases record.find? key with
    | none =>
      refine outcome?_bind fun c => outcome?_bind fun v => ?_
      show outcome? (record.members false slots v.rest >>= _) = _
      cases record.members false slots v.rest <;> rfl
    | some i =>
      simp only
      split
      · rfl
      · refine outcome?_bind fun c => outcome?_bind fun x => ?_
        show outcome? (record.members false (slots.put i x.value) x.rest >>= _) = _
        cases record.members false (slots.put i x.value) x.rest <;> rfl

theorem members_reads (described : Described record means) {first : Bool} {slots : Slots α}
    {ms : Members} {cs ds : List Char} (h : Written (.members first ms) cs ds) :
    outcome? (record.members first slots (bytes cs)) =
      (fill record means slots ms).map fun all => (all, bytes ds) := by
  induction ms generalizing first slots cs with
  | nil =>
    cases h with
    | objectEnd blanks =>
      rw [outcome?_members, nextKey_of_end blanks]
      rfl
  | cons m ms ih =>
    cases h with
    | @member _ items v _ _ _ _ _ _ _ _ lead content colon behind written others =>
      rw [outcome?_members, nextKey_of_lead lead content]
      cases textOf items with
      | none => rfl
      | some key =>
        rw [Option.map_some, Option.bind_some, fill]
        simp only [colon_of_blanks colon, Option.bind_some]
        cases record.find? key with
        | none =>
          simp only [written.skips _ behind (ends_of_members others), Option.bind_some]
          exact ih others
        | some i =>
          simp only
          split
          · rfl
          · rw [(described.lawful i).reads behind written]
            cases means i v with
            | none => rfl
            | some x => exact ih others

theorem members_passes (described : Described record means) {first : Bool} {slots all : Slots α}
    {s r : Bytes} (read' : outcome? (record.members first slots s) = some (all, r)) :
    outcome? (skipMembers first s) = some ((), r) := by
  induction m : s.length using Nat.strongRecOn generalizing first slots s with
  | ind m ih =>
    subst m
    rw [outcome?_members] at read'
    obtain ⟨⟨key, r₁⟩, next, read'⟩ := Option.bind_eq_some_iff.1 read'
    have h₁ : r₁.length < s.length := length_of_outcome? next
    cases key with
    | none =>
      cases read'
      exact skipMembers_of_end next
    | some key =>
      simp only at read'
      split at read'
      · obtain ⟨⟨_, r₂⟩, between, read'⟩ := Option.bind_eq_some_iff.1 read'
        obtain ⟨⟨_, r₃⟩, value, read'⟩ := Option.bind_eq_some_iff.1 read'
        have h₂ : r₂.length < r₁.length := length_of_outcome? between
        have h₃ : r₃.length < r₂.length := length_of_outcome? value
        exact skipMembers_of_key next between value (ih _ (by omega) read' rfl)
      · next i _ =>
        split at read'
        · cases read'
        · obtain ⟨⟨_, r₂⟩, between, read'⟩ := Option.bind_eq_some_iff.1 read'
          obtain ⟨⟨x, r₃⟩, value, read'⟩ := Option.bind_eq_some_iff.1 read'
          have h₂ : r₂.length < r₁.length := length_of_outcome? between
          have h₃ : r₃.length < r₂.length := length_of_outcome? value
          exact skipMembers_of_key next between ((described.lawful i).passes value)
            (ih _ (by omega) read' rfl)

theorem outcome?_readList_nil (first : Bool) (slots : Slots α) (s : Bytes) :
    outcome? (record.readList [] first slots s) =
      (after? ']' s).bind fun r => (record.completed? slots).map fun x => (x, r) := by
  rw [readList]
  refine Eq.trans (outcome?_bind (g := fun p => (record.completed? slots).map fun x => (x, p.2))
    fun ⟨_, r, shorter⟩ => ?_) ?_
  · simp only [completed?]
    cases record.complete slots <;> rfl
  · rw [outcome?_listEnd]
    cases after? ']' s <;> rfl

theorem outcome?_readList_cons (i : Fin n) (todo : List (Fin n)) (first : Bool) (slots : Slots α)
    (s : Bytes) :
    outcome? (record.readList (i :: todo) first slots s) =
      (next? (nextElement first s)).bind fun p =>
        if p.1 then (record.completed? slots).map fun x => (x, p.2)
        else (outcome? ((record.member i).read p.2)).bind fun x =>
          outcome? (record.readList todo false (slots.put i x.1) x.2) := by
  rw [readList]
  show outcome? (nextElement first s >>= _) = _
  cases nextElement first s with
  | error f => rfl
  | ok place =>
    cases place with
    | close r shorter =>
      show outcome? _ = (record.completed? slots).map fun x => (x, r)
      rw [completed?]
      cases record.complete slots <;> rfl
    | element t notLonger =>
      show outcome? ((record.member i).read t >>= _) = Option.bind _ _
      refine outcome?_bind fun x => ?_
      show outcome? (record.readList todo false (slots.put i x.value) x.rest >>= _) = _
      cases record.readList todo false (slots.put i x.value) x.rest <;> rfl

theorem readList_reads (described : Described record means) {todo : List (Fin n)} {first : Bool}
    {slots : Slots α} {vs : List Value} {cs ds : List Char}
    (h : Written (.elements first vs) cs ds) :
    outcome? (record.readList todo first slots (bytes cs)) =
      ((gather means todo slots vs).bind record.completed?).map fun x => (x, bytes ds) := by
  induction todo generalizing first slots vs cs with
  | nil =>
    rw [outcome?_readList_nil]
    cases h with
    | listEnd blanks =>
      rw [after?_of_blanks blanks (by decide) (by decide)]
      rfl
    | element lead written others =>
      obtain ⟨c, es, rfl, opens⟩ := written.opens
      obtain ⟨ascii, solid, bracket, _⟩ := opens.token
      obtain ⟨fs, place, _⟩ := place?_of_lead (.inl rfl) lead ascii solid bracket
      rw [after?_of_place place]
      rfl
  | cons i todo ih =>
    rw [outcome?_readList_cons, next?_nextElement]
    cases h with
    | listEnd blanks =>
      rw [place?_of_blanks (.inl rfl) blanks]
      rfl
    | @element _ v vs _ _ es _ lead written others =>
      obtain ⟨c, es, rfl, opens⟩ := written.opens
      obtain ⟨ascii, solid, bracket, _⟩ := opens.token
      obtain ⟨fs, place, blanks⟩ := place?_of_lead (.inl rfl) lead ascii solid bracket
      have notEnd : UInt8.ofNat c.toNat ≠ closeBracket := fun same =>
        bracket ((Utf8.ofNat_inj_of_ascii ascii (d := ']') (by decide)).1 same)
      simp only [place, Option.bind_some, skipBlank_cons blanks ascii solid, if_neg notEnd,
        Bool.false_eq_true, ↓reduceIte]
      rw [← bytes_cons_ascii ascii, (described.lawful i).reads .none written, gather]
      cases means i v with
      | none => rfl
      | some x => exact ih others

theorem readList_passes (described : Described record means) {todo : List (Fin n)} {first : Bool}
    {slots : Slots α} {s r : Bytes} {x : (i : Fin n) → α i}
    (read' : outcome? (record.readList todo first slots s) = some (x, r)) :
    outcome? (skipElements first s) = some ((), r) := by
  rw [outcome?_skipElements]
  induction todo generalizing first slots s with
  | nil =>
    rw [outcome?_readList_nil] at read'
    obtain ⟨t, found, read'⟩ := Option.bind_eq_some_iff.1 read'
    obtain ⟨_, _, same⟩ := Option.map_eq_some_iff.1 read'
    cases same
    rw [place?_of_after found]
    rfl
  | cons i todo ih =>
    rw [outcome?_readList_cons, next?_nextElement] at read'
    obtain ⟨⟨closed, t⟩, next, read'⟩ := Option.bind_eq_some_iff.1 read'
    obtain ⟨⟨ended, u⟩, place, next⟩ := Option.bind_eq_some_iff.1 next
    rw [place]
    cases ended with
    | true =>
      cases next
      obtain ⟨_, _, same⟩ := Option.map_eq_some_iff.1 read'
      cases same
      rfl
    | false =>
      rw [if_neg Bool.false_ne_true] at next
      split at next
      · cases next
      · next b r eq =>
        split at next
        · cases next
        · cases next
          obtain ⟨⟨y, v⟩, element, read'⟩ := Option.bind_eq_some_iff.1 read'
          rw [Option.bind_some, if_neg Bool.false_ne_true,
            outcome?_skipValue_congr (eq.trans (skipBlank_of_eq eq).symm),
            (described.lawful i).passes element, Option.bind_some, outcome?_skipElements]
          exact ih read'

theorem outcome?_read (s : Bytes) :
    outcome? (record.read s) = match skipBlank s with
      | [] => none
      | b :: r =>
        if b = openBrace then (outcome? (record.members true Slots.empty r)).bind fun p =>
          (record.completed? p.1).map fun x => (x, p.2)
        else if b = openBracket then
          outcome? (record.readList (List.finRange n) true Slots.empty r)
        else none := by
  rw [read]
  split
  · next eq => simp only [eq]; rfl
  · next b r eq =>
    simp only [eq]
    split
    · rw [outcome?_from, readObject]
      refine outcome?_bind fun step => ?_
      obtain ⟨slots, t, shorter⟩ := step
      simp only [completed?]
      cases record.complete slots <;> rfl
    split
    · exact outcome?_from _ _
    · rfl

theorem Described.lawful_read (described : Described record means) :
    Lawful record.read (record.meaning? means) where
  reads {v bs cs ds} blanks h := by
    rw [outcome?_read]
    cases v with
    | object ms =>
      cases h with
      | object h =>
        rw [skipBlank_cons blanks (by decide) (by decide)]
        show Option.bind (outcome? (record.members true Slots.empty _)) _ = _
        rw [members_reads described h, meaning?, object?]
        cases fill record means Slots.empty ms <;> rfl
    | list vs =>
      cases h with
      | list h =>
        rw [skipBlank_cons blanks (by decide) (by decide)]
        exact readList_reads described h
    | null | flag | number | text =>
      obtain ⟨b, r, eq, other⟩ := h.first blanks
      rw [eq]
      refine (if_neg (other '\x7b' (by decide) ?_)).trans (if_neg (other '[' (by decide) ?_)) <;>
        simp [Value.Opens]
  passes {s r x} read' := by
    rw [outcome?_read] at read'
    split at read'
    · cases read'
    · next b t eq =>
      rw [outcome?_skipValue eq]
      split at read'
      · next brace =>
        obtain ⟨⟨slots, u⟩, inner, read'⟩ := Option.bind_eq_some_iff.1 read'
        obtain ⟨_, _, same⟩ := Option.map_eq_some_iff.1 read'
        cases same
        rw [brace]
        exact members_passes described inner
      split at read'
      · next bracket =>
        rw [bracket]
        exact readList_passes described read'
      · cases read'

end Dashboard.Json.Record
