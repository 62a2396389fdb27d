import Dashboard.Client.Config

/-!
# Slashes in base URLs

A configuration has a base URL that is never empty, and a path is put behind it with a
slash between the two.  One slash at the end of what was typed is dropped, and one at the
beginning of a path; what stands in front of the first, or behind the second, is kept, and
it may be a slash as well.

## Main definitions

* `EndsInSlash`, `BeginsWithSlash` — slashes at the ends of a text.
* `JoinedByOneSlash` — a base with a path behind it, and one slash between them.

## Main results

* `Client.Config.one_slash_iff` — a base URL ends in a slash just if two were typed at its
  end, and a path is joined to it by more than one slash just then or if it begins with
  two.
* `Client.Config.keeps_second_slash` — a base URL and a path for which this is so.
-/

namespace Dashboard

/-- Whether a text ends in a slash. -/
def EndsInSlash (text : String) : Prop := text.toList.getLast? = some '/'

/-- Whether a text begins with a slash. -/
def BeginsWithSlash (text : String) : Prop := text.toList.head? = some '/'

/-- Whether a text is a base with a path behind it, and exactly one slash between them in
place of those that the path begins with. -/
def JoinedByOneSlash (base path text : String) : Prop :=
  ∃ slashes relative, path = String.ofList slashes ++ relative ∧ (∀ c ∈ slashes, c = '/') ∧
    text = base ++ "/" ++ relative ∧ ¬ EndsInSlash base ∧ ¬ BeginsWithSlash relative

instance (text : String) : Decidable (EndsInSlash text) :=
  inferInstanceAs (Decidable (text.toList.getLast? = some '/'))

theorem eq_slash_append {text : String} {rest : List Char} (eq : text.toList = '/' :: rest) :
    text = "/" ++ String.ofList rest := by
  rw [← String.toList_inj, eq, String.toList_append, String.toList_ofList, String.toList_ofList]
  rfl

theorem beginsWithSlash_iff {text : String} :
    BeginsWithSlash text ↔ ∃ rest, text = "/" ++ rest := by
  unfold BeginsWithSlash
  rw [List.head?_eq_some_iff]
  constructor
  · rintro ⟨rest, eq⟩
    exact ⟨String.ofList rest, eq_slash_append eq⟩
  · rintro ⟨rest, rfl⟩
    exact ⟨rest.toList, String.toList_append⟩

namespace Client.Config

/-! ## The base URL -/

theorem dropSlash_append (stem : List Char) : dropSlash (stem ++ ['/']) = stem := by
  unfold dropSlash
  rw [if_pos List.getLast?_concat, List.dropLast_concat]

/-- A slash is left where there were two. -/
theorem getLast?_dropSlash {cs : List Char} :
    (dropSlash cs).getLast? = some '/' ↔ ∃ stem, cs = stem ++ ['/', '/'] := by
  constructor
  · intro ends
    by_cases slash : cs.getLast? = some '/'
    · obtain ⟨front, rfl⟩ := List.getLast?_eq_some_iff.1 slash
      rw [dropSlash_append] at ends
      obtain ⟨stem, rfl⟩ := List.getLast?_eq_some_iff.1 ends
      exact ⟨stem, by rw [List.append_assoc, List.singleton_append]⟩
    · rw [dropSlash, if_neg slash] at ends
      exact absurd ends slash
  · rintro ⟨stem, rfl⟩
    rw [← List.singleton_append, ← List.append_assoc, dropSlash_append]
    exact List.getLast?_concat

variable (baseUrl apiKey : Option String)

theorem baseUrl_ne_empty : (resolve baseUrl apiKey).baseUrl ≠ "" := by
  show (if dropSlash _ = [] then defaultBaseUrl else String.ofList (dropSlash _)) ≠ ""
  split
  · decide
  · next nonempty =>
      intro empty
      exact nonempty (String.ofList_eq_empty_iff.1 empty)

/-- The default neither ends in a slash nor is used where one is left. -/
theorem endsInSlash_resolve : EndsInSlash (resolve baseUrl apiKey).baseUrl ↔
    (dropSlash (baseUrl.getD defaultBaseUrl).toList).getLast? = some '/' := by
  show EndsInSlash (if dropSlash _ = [] then defaultBaseUrl else String.ofList (dropSlash _)) ↔ _
  split
  · next empty =>
      rw [empty]
      decide
  · unfold EndsInSlash
    rw [String.toList_ofList]

/-- **A base URL ends in a slash** just if two slashes were typed at its end. -/
theorem endsInSlash_iff : EndsInSlash (resolve baseUrl apiKey).baseUrl ↔
    ∃ stem, baseUrl = some (stem ++ "//") := by
  rw [endsInSlash_resolve]
  cases baseUrl with
  | none =>
      refine iff_of_false (by decide) ?_
      rintro ⟨_, eq⟩
      cases eq
  | some typed =>
      rw [Option.getD_some, getLast?_dropSlash]
      constructor
      · rintro ⟨stem, eq⟩
        refine ⟨String.ofList stem, congrArg some (String.toList_inj.1 ?_)⟩
        rw [eq, String.toList_append, String.toList_ofList]
        rfl
      · rintro ⟨stem, eq⟩
        refine ⟨stem.toList, ?_⟩
        rw [Option.some.inj eq, String.toList_append]
        rfl

/-! ## The path -/

/-- **A path behind its base URL**: one slash in front of it is dropped. -/
theorem url_eq (c : Config) (path : String) :
    ∃ relative, c.url path = c.baseUrl ++ "/" ++ relative ∧
      (path = "/" ++ relative ∨ path = relative ∧ ¬ BeginsWithSlash path) := by
  refine ⟨_, rfl, ?_⟩
  split
  · next rest eq => exact .inl (eq_slash_append eq)
  · next other =>
      refine .inr ⟨String.ofList_toList.symm, ?_⟩
      intro slash
      obtain ⟨rest, eq⟩ := List.head?_eq_some_iff.1 slash
      exact other rest eq

/-- **A path is joined by one slash** just if the base does not end in one and the path
does not begin with two. -/
theorem joinedByOneSlash_url (c : Config) (path : String) :
    JoinedByOneSlash c.baseUrl path (c.url path) ↔
      ¬ EndsInSlash c.baseUrl ∧ ¬ ∃ rest, path = "//" ++ rest := by
  obtain ⟨relative, url, origin⟩ := url_eq c path
  have begins : BeginsWithSlash relative ↔ ∃ rest, path = "//" ++ rest := by
    have two (rest : String) : "//" ++ rest = "/" ++ ("/" ++ rest) := by
      rw [← String.append_assoc]
      rfl
    rcases origin with rfl | ⟨rfl, single⟩
    · rw [beginsWithSlash_iff]
      simp only [two, String.append_right_inj]
    · refine iff_of_false single ?_
      rintro ⟨rest, rfl⟩
      exact single (beginsWithSlash_iff.2 ⟨"/" ++ rest, two rest⟩)
  constructor
  · rintro ⟨-, relative', -, -, url', base, first⟩
    rw [url, String.append_right_inj] at url'
    rw [url'] at begins
    exact ⟨base, mt begins.2 first⟩
  · rintro ⟨base, single⟩
    have behind : ¬ BeginsWithSlash relative := mt begins.1 single
    rcases origin with eq | ⟨eq, -⟩
    · exact ⟨['/'], relative, eq, List.forall_mem_singleton.2 rfl, url, base, behind⟩
    · refine ⟨[], relative, ?_, fun c none => absurd none List.not_mem_nil, url, base, behind⟩
      rw [eq]
      exact String.empty_append.symm

/-! ## Both together -/

/-- **Slashes that are left.**  The base URL is not empty.  It ends in a slash just if two
were typed at its end, and it is joined to a path by more than one slash just then, or if
the path begins with two. -/
theorem one_slash_iff (path : String) :
    (resolve baseUrl apiKey).baseUrl ≠ "" ∧
      (EndsInSlash (resolve baseUrl apiKey).baseUrl ↔ ∃ stem, baseUrl = some (stem ++ "//")) ∧
        (JoinedByOneSlash (resolve baseUrl apiKey).baseUrl path
            ((resolve baseUrl apiKey).url path) ↔
          (¬ ∃ stem, baseUrl = some (stem ++ "//")) ∧ ¬ ∃ rest, path = "//" ++ rest) := by
  refine ⟨baseUrl_ne_empty baseUrl apiKey, endsInSlash_iff baseUrl apiKey, ?_⟩
  rw [joinedByOneSlash_url, endsInSlash_iff]

/-- **A second slash is kept**, at the end of a base URL and in front of a path. -/
theorem keeps_second_slash : ¬ ∀ (baseUrl apiKey : Option String) (path : String),
    (resolve baseUrl apiKey).baseUrl ≠ "" ∧ ¬ EndsInSlash (resolve baseUrl apiKey).baseUrl ∧
      JoinedByOneSlash (resolve baseUrl apiKey).baseUrl path
        ((resolve baseUrl apiKey).url path) := by
  intro claim
  obtain ⟨-, base, -⟩ := claim (some "http://h/api//") none "v1/x"
  exact base ((endsInSlash_iff _ _).2 ⟨"http://h/api", rfl⟩)

end Client.Config

end Dashboard
