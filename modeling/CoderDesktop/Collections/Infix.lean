import Mathlib.Data.List.Infix

/-!
# First occurrences of a pattern

`index` is the place of the first occurrence of a pattern in a list. A pattern that
`Opens` with a sign it does not contain again cannot overlap with itself or with another
such pattern, so its occurrences in a list that is put together from parts are those in
the parts.
-/

namespace CoderDesktop.Collections

universe u

variable {Item : Type u}

/-! ## Patterns with an opening sign -/

/-- The pattern starts with the sign and does not contain it again. -/
structure Opens (sign : Item) (pattern : List Item) : Prop where
  head : pattern.head? = some sign
  tail : sign ∉ pattern.tail

/-- Neither pattern is the beginning of the other. -/
def Apart (first second : List Item) : Prop :=
  ¬ first <+: second ∧ ¬ second <+: first

instance [DecidableEq Item] (sign : Item) (pattern : List Item) :
    Decidable (Opens sign pattern) :=
  decidable_of_iff (pattern.head? = some sign ∧ sign ∉ pattern.tail)
    ⟨fun both => ⟨both.1, both.2⟩, fun opens => ⟨opens.head, opens.tail⟩⟩

instance [DecidableEq Item] (first second : List Item) : Decidable (Apart first second) :=
  inferInstanceAs (Decidable (_ ∧ _))

/-- The relation is symmetric. -/
theorem Apart.symm {first second : List Item} (apart : Apart first second) :
    Apart second first :=
  ⟨apart.2, apart.1⟩

/-- Patterns that are apart do not start at the same place. -/
theorem Apart.not_starts {first second : List Item} (apart : Apart first second)
    (rest : List Item) : ¬ first <+: second ++ rest := by
  intro starts
  rcases List.prefix_or_prefix_of_prefix starts (List.prefix_append second rest) with
    shorter | longer
  · exact apart.1 shorter
  · exact apart.2 longer

namespace Opens

variable {sign : Item} {pattern : List Item}

/-- The pattern starts with its sign. -/
theorem eq_cons (opens : Opens sign pattern) : pattern = sign :: pattern.tail := by
  cases pattern with
  | nil => cases opens.head
  | cons first rest =>
      obtain rfl := Option.some.inj opens.head
      rfl

/-- The pattern is not empty. -/
theorem ne_nil (opens : Opens sign pattern) : pattern ≠ [] := by
  rw [opens.eq_cons]
  exact List.cons_ne_nil _ _

/-- The pattern has a length. -/
theorem length_pos (opens : Opens sign pattern) : 0 < pattern.length :=
  List.length_pos_iff.mpr opens.ne_nil

/-- Cut in two parts, only the first one contains the sign. -/
theorem not_mem_of_append (opens : Opens sign pattern) {left right : List Item}
    (nonempty : left ≠ []) (split : pattern = left ++ right) : sign ∉ right := by
  intro member
  cases left with
  | nil => exact nonempty rfl
  | cons first rest =>
      refine opens.tail ?_
      rw [split]
      exact List.mem_append_right rest member

/-- Every nonempty front of the pattern has the sign. -/
theorem head_of_append (opens : Opens sign pattern) {left right : List Item}
    (nonempty : left ≠ []) (split : pattern = left ++ right) : sign ∈ left := by
  cases left with
  | nil => exact absurd rfl nonempty
  | cons first rest =>
      have head := opens.head
      rw [split] at head
      obtain rfl := Option.some.inj head
      exact List.mem_cons_self

/-- An occurrence does not reach over a sign that follows. -/
theorem infix_append_cons (opens : Opens sign pattern) (first rest : List Item) :
    pattern <:+: first ++ sign :: rest ↔ pattern <:+: first ∨ pattern <:+: sign :: rest := by
  rw [List.infix_append_iff_ne_nil]
  constructor
  · rintro (before | after | ⟨left, right, leftNonempty, rightNonempty, split, -, starts⟩)
    · exact .inl before
    · exact .inr after
    · refine absurd ?_ (opens.not_mem_of_append leftNonempty split)
      cases right with
      | nil => exact absurd rfl rightNonempty
      | cons head more =>
          obtain rfl := (List.cons_prefix_cons.mp starts).1
          exact List.mem_cons_self
  · rintro (before | after)
    · exact .inl before
    · exact .inr (.inl after)

/-- Without the sign there is no pattern. -/
theorem not_infix_of_not_mem (opens : Opens sign pattern) {front : List Item}
    (absent : sign ∉ front) : ¬ pattern <:+: front := by
  intro occurs
  exact absent (occurs.subset (opens.eq_cons ▸ List.mem_cons_self))

/-- An occurrence does not start in a part without the sign. -/
theorem infix_append_of_not_mem (opens : Opens sign pattern) {front : List Item}
    (absent : sign ∉ front) (rest : List Item) :
    pattern <:+: front ++ rest ↔ pattern <:+: rest := by
  rw [List.infix_append_iff_ne_nil]
  constructor
  · rintro (before | after | ⟨left, right, nonempty, -, split, ends, -⟩)
    · exact absurd before (opens.not_infix_of_not_mem absent)
    · exact after
    · exact absurd (ends.subset (opens.head_of_append nonempty split)) absent
  · exact fun after => .inr (.inl after)

/-- What starts in a part does not reach over a sign that follows. -/
theorem prefix_of_append_cons (opens : Opens sign pattern) {first rest : List Item}
    (nonempty : first ≠ []) (starts : pattern <+: first ++ sign :: rest) : pattern <+: first := by
  rcases List.prefix_or_prefix_of_prefix starts (List.prefix_append first _) with
    inside | ⟨right, split⟩
  · exact inside
  · cases right with
    | nil => rw [← split, List.append_nil]
    | cons head more =>
        rw [← split] at starts
        obtain rfl := (List.cons_prefix_cons.mp ((List.prefix_append_right_inj first).mp starts)).1
        exact absurd List.mem_cons_self (opens.not_mem_of_append nonempty split.symm)

/-- Nothing starts in a repeated part that is not in the part. -/
theorem not_prefix_repeated (opens : Opens sign pattern) {part : List Item}
    (nonempty : part ≠ []) (absent : ¬ pattern <:+: part) (rest : List Item) :
    ¬ pattern <+: part ++ (part ++ rest) := by
  intro starts
  cases part with
  | nil => exact nonempty rfl
  | cons first more =>
      have same : first = sign := by
        rw [opens.eq_cons] at starts
        exact (List.cons_prefix_cons.mp starts).1.symm
      subst same
      exact absent (opens.prefix_of_append_cons nonempty starts).isInfix

/-- Within another pattern nothing starts but what starts with it. -/
theorem infix_pattern_append (opens : Opens sign pattern) {other : List Item}
    (otherOpens : Opens sign other) (apart : Apart pattern other) (rest : List Item) :
    pattern <:+: other ++ rest ↔ pattern <:+: rest := by
  have starts := apart.not_starts rest
  rw [otherOpens.eq_cons, List.cons_append] at starts ⊢
  rw [List.infix_cons_iff, or_iff_right starts, opens.infix_append_of_not_mem otherOpens.tail]

/-- Joining two parts makes one pattern at most. -/
theorem not_infix_append_of_infix (opens : Opens sign pattern) {other : List Item}
    (otherOpens : Opens sign other) (apart : Apart pattern other) {first rest : List Item}
    (absent : ¬ pattern <:+: first ∧ ¬ pattern <:+: rest)
    (otherAbsent : ¬ other <:+: first ∧ ¬ other <:+: rest) (occurs : pattern <:+: first ++ rest) :
    ¬ other <:+: first ++ rest := by
  intro otherOccurs
  rcases List.infix_append_iff_ne_nil.mp occurs with
    before | after | ⟨left, right, nonempty, -, split, ends, starts⟩
  · exact absent.1 before
  · exact absent.2 after
  rcases List.infix_append_iff_ne_nil.mp otherOccurs with
    before | after | ⟨otherLeft, otherRight, otherNonempty, -, otherSplit, otherEnds, otherStarts⟩
  · exact otherAbsent.1 before
  · exact otherAbsent.2 after
  -- Both start where the sign stands, so at the same place.
  have same : left = otherLeft := by
    rcases List.suffix_or_suffix_of_suffix ends otherEnds with ⟨front, longer⟩ | ⟨front, longer⟩
    · cases front with
      | nil => exact longer
      | cons head more =>
          rw [← longer, List.append_assoc] at otherSplit
          refine absurd ?_ (otherOpens.not_mem_of_append (List.cons_ne_nil _ _) otherSplit)
          exact List.mem_append_left _ (opens.head_of_append nonempty split)
    · cases front with
      | nil => exact longer.symm
      | cons head more =>
          rw [← longer, List.append_assoc] at split
          refine absurd ?_ (opens.not_mem_of_append (List.cons_ne_nil _ _) split)
          exact List.mem_append_left _ (otherOpens.head_of_append otherNonempty otherSplit)
  subst same
  rcases List.prefix_or_prefix_of_prefix starts otherStarts with shorter | longer
  · refine apart.1 ?_
    rw [split, otherSplit]
    exact (List.prefix_append_right_inj left).mpr shorter
  · refine apart.2 ?_
    rw [split, otherSplit]
    exact (List.prefix_append_right_inj left).mpr longer

end Opens

/-! ## First occurrences -/

variable [DecidableEq Item]

/-- `strings.Index` -/
def index (content pattern : List Item) : Option Nat :=
  content.tails.findIdx? fun rest => pattern <+: rest

variable {sign : Item} {content pattern : List Item}

/-- There is no index exactly when the pattern does not occur. -/
theorem index_eq_none_iff : index content pattern = none ↔ ¬ pattern <:+: content := by
  rw [index, List.findIdx?_eq_none_iff, List.infix_iff_prefix_suffix]
  simp only [decide_eq_false_iff_not, List.mem_tails, not_exists, not_and]
  exact ⟨fun nowhere rest starts ends => nowhere rest ends starts,
    fun nowhere rest ends starts => nowhere rest starts ends⟩

/-- The index is the first position at which the pattern occurs. -/
theorem index_eq_some_iff {position : Nat} :
    index content pattern = some position ↔
      position ≤ content.length ∧ pattern <+: content.drop position ∧
        ∀ earlier < position, ¬ pattern <+: content.drop earlier := by
  rw [index, List.findIdx?_eq_some_iff_getElem]
  simp only [List.getElem_tails, decide_eq_true_eq, List.length_tails, Nat.lt_succ_iff, exists_prop]

/-- Before the first occurrence there is none. -/
theorem exists_of_index (opens : Opens sign pattern) {position : Nat}
    (found : index content pattern = some position) :
    ∃ before after, content = before ++ (pattern ++ after) ∧ before.length = position ∧
      ¬ pattern <:+: before := by
  obtain ⟨bound, ⟨after, here⟩, least⟩ := index_eq_some_iff.mp found
  refine ⟨content.take position, after, ?_, List.length_take_of_le bound, ?_⟩
  · rw [here, List.take_append_drop]
  · rintro ⟨earlier, between, inner⟩
    have lengths := congrArg List.length inner
    have positive := opens.length_pos
    rw [List.length_take_of_le bound, List.length_append, List.length_append] at lengths
    refine least earlier.length (by omega) ?_
    have split : content = earlier ++ (pattern ++ (between ++ content.drop position)) := by
      rw [← List.append_assoc pattern, ← List.append_assoc earlier, ← List.append_assoc earlier,
        inner, List.take_append_drop]
    rw [split, List.drop_left]
    exact List.prefix_append _ _

/-- A pattern that is not in the first part occurs first where it is put. -/
theorem index_append (opens : Opens sign pattern) {before : List Item}
    (absent : ¬ pattern <:+: before) (after : List Item) :
    index (before ++ (pattern ++ after)) pattern = some before.length := by
  refine index_eq_some_iff.mpr ⟨by simp, by simp, fun earlier bound starts => absent ?_⟩
  rw [List.drop_append_of_le_length (Nat.le_of_lt bound), opens.eq_cons, List.cons_append,
    ← opens.eq_cons] at starts
  have nonempty : before.drop earlier ≠ [] := by
    rw [ne_eq, List.drop_eq_nil_iff]
    omega
  have inside := opens.prefix_of_append_cons nonempty starts
  exact inside.isInfix.trans (List.drop_suffix _ _).isInfix

/-- A list is split at a first occurrence in one way. -/
theorem append_inj_of_first (opens : Opens sign pattern) {before before' after after' : List Item}
    (absent : ¬ pattern <:+: before) (absent' : ¬ pattern <:+: before')
    (same : before ++ (pattern ++ after) = before' ++ (pattern ++ after')) :
    before = before' ∧ after = after' := by
  have lengths : before.length = before'.length := by
    have first := index_append opens absent after
    rw [same, index_append opens absent' after'] at first
    exact (Option.some.inj first).symm
  obtain ⟨rfl, rest⟩ := List.append_inj same lengths
  exact ⟨rfl, List.append_cancel_left rest⟩

/-- A pattern occurs first no later than where it is put. -/
theorem index_append_le (before after : List Item) :
    ∃ position ≤ before.length, index (before ++ (pattern ++ after)) pattern = some position := by
  cases found : index (before ++ (pattern ++ after)) pattern with
  | none => exact absurd (List.infix_append' _ _ _) (index_eq_none_iff.mp found)
  | some position =>
      refine ⟨position, Nat.le_of_not_lt fun later => ?_, rfl⟩
      refine (index_eq_some_iff.mp found).2.2 before.length later ?_
      rw [List.drop_left]
      exact List.prefix_append _ _

/-- Patterns that are apart do not occur at the same place. -/
theorem index_ne_of_apart {other : List Item} (apart : Apart pattern other) {position : Nat}
    (found : index content pattern = some position) : index content other ≠ some position := by
  intro otherFound
  rcases List.prefix_or_prefix_of_prefix (index_eq_some_iff.mp found).2.1
    (index_eq_some_iff.mp otherFound).2.1 with shorter | longer
  · exact apart.1 shorter
  · exact apart.2 longer

/-- What stands around and between the first occurrences of two patterns. -/
theorem split_of_index_lt {second : List Item} (opens : Opens sign pattern)
    (secondOpens : Opens sign second) {position later : Nat}
    (found : index content pattern = some position)
    (foundSecond : index content second = some later) (order : position < later) :
    ∃ before between after, content = before ++ (pattern ++ (between ++ (second ++ after))) ∧
      before.length = position ∧ before.length + pattern.length + between.length = later ∧
      ¬ pattern <:+: before ∧ ¬ second <:+: before ++ (pattern ++ between) := by
  obtain ⟨before, rest, split, rfl, absent⟩ := exists_of_index opens found
  obtain ⟨front, after, splitSecond, rfl, absentSecond⟩ := exists_of_index secondOpens foundSecond
  have beforePrefix : before <+: content := ⟨_, split.symm⟩
  have frontPrefix : front <+: content := ⟨_, splitSecond.symm⟩
  obtain ⟨middle, rfl⟩ := List.prefix_of_prefix_length_le beforePrefix frontPrefix
    (Nat.le_of_lt order)
  have middleNonempty : middle ≠ [] := by
    rintro rfl
    simp at order
  have rejoined : pattern ++ rest = middle ++ (second ++ after) := by
    have whole := split.symm.trans splitSecond
    rw [List.append_assoc] at whole
    exact List.append_cancel_left whole
  have starts : pattern <+: middle ++ (second ++ after) := ⟨rest, rejoined⟩
  rw [secondOpens.eq_cons, List.cons_append] at starts
  obtain ⟨between, rfl⟩ := opens.prefix_of_append_cons middleNonempty starts
  refine ⟨before, between, after, ?_, rfl, ?_, absent, absentSecond⟩
  · rw [splitSecond, List.append_assoc, List.append_assoc]
  · rw [List.length_append, List.length_append, Nat.add_assoc]

end CoderDesktop.Collections
