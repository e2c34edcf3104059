import Mathlib.Data.List.DropRight

/-!
# Words of a text

The words of a text are its runs of letters between blanks. Two texts have the same words
when they have the same letters and words begin at the same ones of them.
-/

namespace CoderDesktop.Encoding

/-- `\s` of a regular expression. -/
def isBlank (char : Char) : Bool :=
  char = ' ' ∨ ('\t' ≤ char ∧ char ≤ '\r')

universe u

variable {Letter : Type u} (blank : Letter → Bool)

/-- The parts between the blanks, without the empty ones. -/
def words (text : List Letter) : List (List Letter) :=
  (text.splitOnP blank).filter fun word => !word.isEmpty

/-- A text without the blanks at its ends. -/
def trimmed (text : List Letter) : List Letter :=
  (text.dropWhile blank).rdropWhile blank

/-- The letters of a text, each with whether a word begins at it. The first one begins a
word if the text is `fresh`. -/
def letters : Bool → List Letter → List (Bool × Letter)
  | _, [] => []
  | fresh, letter :: rest =>
      if blank letter then letters true rest else (fresh, letter) :: letters false rest

/-! ## Letters and words -/

section Letters

variable {blank}

/-- No text, no letters. -/
@[simp]
theorem letters_nil (fresh : Bool) : letters blank fresh [] = [] := rfl

/-- A blank makes the next letter fresh. -/
theorem letters_cons_blank {letter : Letter} (isBlank : blank letter = true) (fresh : Bool)
    (rest : List Letter) : letters blank fresh (letter :: rest) = letters blank true rest :=
  if_pos isBlank

/-- A letter is fresh after a blank. -/
theorem letters_cons_letter {letter : Letter} (isLetter : blank letter = false) (fresh : Bool)
    (rest : List Letter) :
    letters blank fresh (letter :: rest) = (fresh, letter) :: letters blank false rest :=
  if_neg (by simp [isLetter])

/-- Every letter that is no blank counts. -/
theorem length_letters (fresh : Bool) (text : List Letter) :
    (letters blank fresh text).length = text.countP fun letter => !blank letter := by
  induction text generalizing fresh with
  | nil => rfl
  | cons letter rest inductionHypothesis =>
      cases isBlank : blank letter with
      | true => rw [letters_cons_blank isBlank, inductionHypothesis]; simp [isBlank]
      | false =>
          rw [letters_cons_letter isBlank, List.length_cons, inductionHypothesis]
          simp [isBlank]

end Letters

/-- The letters of one word. -/
def begun : List Letter → List (Bool × Letter)
  | [] => []
  | letter :: rest => (true, letter) :: rest.map (Prod.mk false)

/-- The letters that go on a word, and the words after it. -/
def regroup : List (Bool × Letter) → List Letter × List (List Letter)
  | [] => ([], [])
  | (true, letter) :: rest => ([], (letter :: (regroup rest).1) :: (regroup rest).2)
  | (false, letter) :: rest => (letter :: (regroup rest).1, (regroup rest).2)

variable {blank}

/-- The letters of a split text, by its first part and the later ones. -/
theorem letters_of_splitOnP {text : List Letter} {first : List Letter}
    {later : List (List Letter)} (split : text.splitOnP blank = first :: later) :
    letters blank true text = (words blank text).flatMap begun ∧
      letters blank false text = first.map (Prod.mk false) ++
        (later.filter fun word => !word.isEmpty).flatMap begun := by
  induction text generalizing first later with
  | nil =>
      obtain ⟨rfl, rfl⟩ := List.cons.inj split
      exact ⟨rfl, rfl⟩
  | cons letter rest inductionHypothesis =>
      obtain ⟨next, others, tail⟩ := List.exists_cons_of_ne_nil (List.splitOnP_ne_nil blank rest)
      obtain ⟨fresh, going⟩ := inductionHypothesis tail
      cases isBlank : blank letter with
      | true =>
          rw [List.splitOnP_cons_eq_if_modifyHead, if_pos isBlank] at split
          obtain ⟨rfl, rfl⟩ := List.cons.inj split
          have same : words blank (letter :: rest) = words blank rest := by
            rw [words, List.splitOnP_cons_eq_if_modifyHead, if_pos isBlank]
            rfl
          rw [letters_cons_blank isBlank, letters_cons_blank isBlank, same]
          exact ⟨fresh, fresh⟩
      | false =>
          rw [List.splitOnP_cons_eq_if_modifyHead, if_neg (by simp [isBlank]), tail] at split
          obtain ⟨rfl, rfl⟩ := List.cons.inj split
          have same : words blank (letter :: rest) =
              (letter :: next) :: others.filter fun word => !word.isEmpty := by
            rw [words, List.splitOnP_cons_eq_if_modifyHead, if_neg (by simp [isBlank]), tail]
            rfl
          rw [letters_cons_letter isBlank, letters_cons_letter isBlank, going, same]
          exact ⟨rfl, rfl⟩

/-- The letters of a text are those of its words. -/
theorem letters_eq_flatMap (text : List Letter) :
    letters blank true text = (words blank text).flatMap begun := by
  obtain ⟨first, later, split⟩ := List.exists_cons_of_ne_nil (List.splitOnP_ne_nil blank text)
  exact (letters_of_splitOnP split).1

/-- Letters that are not fresh belong to the word before. -/
theorem regroup_continued (word : List Letter) (rest : List (Bool × Letter)) :
    regroup (word.map (Prod.mk false) ++ rest) = (word ++ (regroup rest).1, (regroup rest).2) := by
  induction word with
  | nil => rfl
  | cons letter word inductionHypothesis =>
      rw [List.map_cons, List.cons_append, regroup, inductionHypothesis]
      rfl

/-- Words are found again. -/
theorem regroup_flatMap_begun {list : List (List Letter)} (proper : ∀ word ∈ list, word ≠ []) :
    regroup (list.flatMap begun) = ([], list) := by
  induction list with
  | nil => rfl
  | cons word list inductionHypothesis =>
      obtain ⟨letter, word, rfl⟩ := List.exists_cons_of_ne_nil (proper word List.mem_cons_self)
      have later := inductionHypothesis fun other member =>
        proper other (List.mem_cons_of_mem _ member)
      rw [List.flatMap_cons, begun, List.cons_append, regroup, regroup_continued, later,
        List.append_nil]

/-- The words of a text are found from its letters. -/
theorem regroup_letters (text : List Letter) :
    regroup (letters blank true text) = ([], words blank text) := by
  rw [letters_eq_flatMap]
  refine regroup_flatMap_begun fun word member => ?_
  have nonempty := (List.mem_filter.mp member).2
  rintro rfl
  exact absurd nonempty (by simp)

/-- Same words, same letters. -/
theorem words_eq_iff {text other : List Letter} :
    words blank text = words blank other ↔
      letters blank true text = letters blank true other := by
  constructor
  · intro same
    rw [letters_eq_flatMap, letters_eq_flatMap, same]
  · intro same
    have regrouped := congrArg regroup same
    rw [regroup_letters, regroup_letters] at regrouped
    exact congrArg Prod.snd regrouped

/-! ## Trimming -/

/-- Leading blanks do not matter. -/
theorem letters_dropWhile (text : List Letter) :
    letters blank true (text.dropWhile blank) = letters blank true text := by
  induction text with
  | nil => rfl
  | cons letter rest inductionHypothesis =>
      cases isBlank : blank letter with
      | true => rw [List.dropWhile_cons_of_pos isBlank, letters_cons_blank isBlank,
          inductionHypothesis]
      | false => rw [List.dropWhile_cons_of_neg (by simp [isBlank])]

/-- Trailing blanks do not matter. -/
theorem letters_append_blanks {blanks : List Letter} (areBlank : ∀ letter ∈ blanks, blank letter)
    (fresh : Bool) (text : List Letter) :
    letters blank fresh (text ++ blanks) = letters blank fresh text := by
  induction text generalizing fresh with
  | nil =>
      induction blanks generalizing fresh with
      | nil => rfl
      | cons letter blanks blanksHypothesis =>
          rw [List.nil_append, letters_cons_blank (areBlank letter List.mem_cons_self)]
          exact blanksHypothesis
            (fun other member => areBlank other (List.mem_cons_of_mem _ member)) true
  | cons letter rest inductionHypothesis =>
      rw [List.cons_append, letters, letters, inductionHypothesis, inductionHypothesis]

/-- Dropping trailing blanks does not change the letters. -/
theorem letters_rdropWhile (fresh : Bool) (text : List Letter) :
    letters blank fresh (text.rdropWhile blank) = letters blank fresh text := by
  have split : text.rdropWhile blank ++ text.rtakeWhile blank = text :=
    List.rdropWhile_append_rtakeWhile
  conv_rhs => rw [← split]
  exact (letters_append_blanks (fun _ member => List.mem_rtakeWhile_imp member) fresh _).symm

/-- Trimming does not change the letters. -/
theorem letters_trimmed (text : List Letter) :
    letters blank true (trimmed blank text) = letters blank true text := by
  rw [trimmed, letters_rdropWhile, letters_dropWhile]

/-- Trimming twice is trimming once. -/
theorem trimmed_trimmed (text : List Letter) :
    trimmed blank (trimmed blank text) = trimmed blank text := by
  have front : (trimmed blank text).dropWhile blank = trimmed blank text := by
    obtain ⟨blanks, split⟩ : trimmed blank text <+: text.dropWhile blank :=
      List.rdropWhile_prefix ..
    cases shape : trimmed blank text with
    | nil => rfl
    | cons letter rest =>
        rw [shape, List.cons_append] at split
        have isLetter := List.head_dropWhile_not blank (l := text) (by simp [← split])
        simp only [← split, List.head_cons] at isLetter
        rw [List.dropWhile_cons_of_neg (by simp [isLetter])]
  conv_lhs => rw [trimmed, front]
  exact List.rdropWhile_idempotent ..

end CoderDesktop.Encoding
