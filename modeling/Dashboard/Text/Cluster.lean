import Dashboard.Text.Break

/-!
# Clusters

What a reader takes for one character may be several code points: a letter
and its accents, a Hangul block, a flag, a family of emoji. Text is cut
between such clusters and never inside one, by the rules for extended
grapheme clusters.

## How far back a boundary looks

Most boundaries are decided by the classes of the two characters at them.
Three rules look further back, at emoji joined by U+200D, at pairs of
regional indicators and at Indic conjuncts, and `Cluster.State` keeps just
what these need.

## Main definitions

* `Text.clusters` — the clusters of a text, in order.
* `flatten_clusters` — nothing is lost by cutting.
-/

namespace Dashboard.Text

namespace Cluster

/-- How far the characters so far are part of an emoji sequence. -/
inductive Emoji where
  | none
  /-- A pictograph and its modifiers. -/
  | base
  /-- The same with a joiner at the end. -/
  | joined
  deriving DecidableEq

/-- How far the characters so far are part of an Indic conjunct. -/
inductive Conjunct where
  | none
  | consonant
  /-- A consonant and a linker behind it. -/
  | linked
  deriving DecidableEq

/-- What a boundary needs to know of the characters in front of it. -/
structure State where
  last : BreakClass
  emoji : Emoji
  /-- Whether an odd number of regional indicators stands in front. -/
  oddFlag : Bool
  conjunct : Conjunct

/-- What is known once a first character was read. -/
def State.first (c : Char) : State where
  last := breakClass c
  emoji := if isPictographic c then .base else .none
  oddFlag := breakClass c == .regional
  conjunct := if isConjunctConsonant c then .consonant else .none

/-- What is known once another character was read. -/
def State.next (s : State) (c : Char) : State where
  last := breakClass c
  emoji :=
    if isPictographic c then .base
    else match s.emoji, breakClass c with
      | .base, .extend => .base
      | .base, .joiner => .joined
      | _, _ => .none
  oddFlag := breakClass c == .regional && !s.oddFlag
  conjunct :=
    if isConjunctConsonant c then .consonant
    else if s.conjunct = .none then .none
    else if isConjunctLinker c then .linked
    else match breakClass c with
      | .extend | .joiner => s.conjunct
      | _ => .none

/-- Whether a Hangul letter goes on with the block before it. -/
def continuesBlock (before after : BreakClass) : Bool :=
  match before, after with
  | .hangulLead, .hangulLead | .hangulLead, .hangulVowel => true
  | .hangulLead, .hangulOpen | .hangulLead, .hangulClosed => true
  | .hangulOpen, .hangulVowel | .hangulVowel, .hangulVowel => true
  | .hangulOpen, .hangulTail | .hangulVowel, .hangulTail => true
  | .hangulClosed, .hangulTail | .hangulTail, .hangulTail => true
  | _, _ => false

/-- Whether a class ends a cluster on both of its sides. -/
def isBreaking : BreakClass → Bool
  | .control | .carriageReturn | .lineFeed => true
  | _ => false

/-- Whether a character belongs to the same cluster as those before it. -/
def State.joins (s : State) (c : Char) : Bool :=
  let after := breakClass c
  if s.last = .carriageReturn ∧ after = .lineFeed then true
  else if isBreaking s.last || isBreaking after then false
  else
    continuesBlock s.last after
      || after == .extend || after == .joiner || after == .spacingMark
      || s.last == .beforeBase
      || (s.emoji == .joined && isPictographic c)
      || (s.oddFlag && after == .regional)
      || (s.conjunct == .linked && isConjunctConsonant c)

/-- The clusters of a text of which `current`, in reverse, was read already
and left the state `s`. -/
def cut (current : List Char) (s : State) : List Char → List (List Char)
  | [] => [current.reverse]
  | c :: cs =>
    if s.joins c then cut (c :: current) (s.next c) cs
    else current.reverse :: cut [c] (State.first c) cs

theorem flatten_cut (cs : List Char) : ∀ (current : List Char) (s : State),
    (cut current s cs).flatten = current.reverse ++ cs := by
  induction cs with
  | nil => intro current s; simp [cut]
  | cons c cs ih =>
    intro current s
    unfold cut
    split
    · rw [ih]; simp
    · rw [List.flatten_cons, ih]; simp

end Cluster

/-- The clusters of a text, in order. -/
def clusters : List Char → List (List Char)
  | [] => []
  | c :: cs => Cluster.cut [c] (Cluster.State.first c) cs

/-- Cutting a text into clusters loses nothing. -/
theorem flatten_clusters (cs : List Char) : (clusters cs).flatten = cs := by
  cases cs with
  | nil => rfl
  | cons c cs => simp [clusters, Cluster.flatten_cut]

end Dashboard.Text
