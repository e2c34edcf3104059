import CoderDesktop.Encoding.Words

/-!
# Exec lines

`cleanExecLine` takes the field codes out of the `Exec` value of a desktop entry with one
regular expression. A launcher reads such a value piece by piece instead.
-/

namespace CoderDesktop.Apps

open Encoding

/-- A text by its characters. -/
abbrev Text := List Char

/-! ## The regular expression -/

/-- A character of a word, as `\b` has it. -/
def isWord (char : Char) : Bool :=
  char.isAlphanum ∨ char = '_'

/-- `[uUfFickdDnNvm]` -/
def isFieldCode (char : Char) : Bool :=
  char ∈ ['u', 'U', 'f', 'F', 'i', 'c', 'k', 'd', 'D', 'n', 'N', 'v', 'm']

/-- `QChar::isSpace` -/
def isSpace (char : Char) : Bool :=
  char = ' ' ∨ ('\t' ≤ char ∧ char ≤ '\r') ∨ char = '\u0085' ∨ char = '\u00a0' ∨
    char = '\u1680' ∨ ('\u2000' ≤ char ∧ char ≤ '\u200a') ∨ char = '\u2028' ∨
    char = '\u2029' ∨ char = '\u202f' ∨ char = '\u205f' ∨ char = '\u3000'

/-- `\s*%[uUfFickdDnNvm]\b` at the start of a text. -/
def fieldCodeAhead (text : Text) : Bool :=
  match text.dropWhile isBlank with
  | '%' :: letter :: rest => isFieldCode letter && !rest.head?.any isWord
  | _ => false

/-- `\s+%[uUfFickdDnNvm]\b` at the start of a text, with the length of the match. -/
def fieldCodeRe (text : Text) : Option Nat :=
  if text.head?.any isBlank && fieldCodeAhead text then
    some ((text.takeWhile isBlank).length + 2)
  else
    none

/-- `QString::remove`: the matches from the left, and `skip` more characters of the match
that is being removed. -/
def remove (re : Text → Option Nat) : Nat → Text → Text
  | _, [] => []
  | skip + 1, _ :: rest => remove re skip rest
  | 0, char :: rest =>
      match re (char :: rest) with
      | some (length + 1) => remove re length rest
      | _ => char :: remove re 0 rest

/-- The command of an `Exec` line. -/
def cleanExecLine (exec : Text) : Text :=
  trimmed isSpace (remove fieldCodeRe 0 exec)

/-! ## The rules of desktop entries -/

/-- What the value of an `Exec` key is made of. -/
inductive Piece where
  | text (char : Char)
  | percent
  | fieldCode (letter : Char)
deriving DecidableEq, Repr

/-- A percent sign in front of anything else stands for itself. -/
def pieces : Text → List Piece
  | '%' :: '%' :: rest => .percent :: pieces rest
  | '%' :: letter :: rest =>
      if isFieldCode letter then .fieldCode letter :: pieces rest
      else .text '%' :: pieces (letter :: rest)
  | char :: rest => .text char :: pieces rest
  | [] => []

/-- The value with no files or URLs to put in. -/
def expand (line : List Piece) : Text :=
  line.flatMap fun
    | .text char => [char]
    | .percent => ['%']
    | .fieldCode _ => []

/-- Only blanks stand before the next field code. -/
def codeNext : List Piece → Bool
  | .text char :: rest => isBlank char && codeNext rest
  | .fieldCode _ :: _ => true
  | _ => false

/-- The same with the blanks in front of a field code left out. -/
def expandClosed : List Piece → Text
  | [] => []
  | .text char :: rest =>
      if isBlank char && codeNext rest then expandClosed rest else char :: expandClosed rest
  | .percent :: rest => '%' :: expandClosed rest
  | .fieldCode _ :: rest => expandClosed rest

/-- The command of a value with no files or URLs. Blanks in front of a field code and at the
ends are free as long as they divide the same words. -/
structure LauncherCommand (exec command : Text) : Prop where
  words : words isSpace command = words isSpace (expand (pieces exec))
  text : command = trimmed isSpace (expandClosed (pieces exec))

/-! ## Field codes that stand alone -/

/-- A character of a word comes first. -/
def startsWord : List Piece → Bool
  | .text char :: _ => isWord char
  | _ => false

/-- A space comes first, or the end. -/
def startsSpace : List Piece → Bool
  | [] => true
  | .text char :: _ => isSpace char
  | _ => false

/-- There is no escaped percent sign, and every field code is a word of its own that follows
a `\s`. `kept` says that a space or nothing stands before the blanks and field codes just
read, and `blank` that the last of them is a blank. -/
def separated : (kept blank : Bool) → List Piece → Bool
  | _, _, [] => true
  | kept, _, .text char :: rest =>
      if isBlank char then separated kept true rest else separated (isSpace char) false rest
  | _, _, .percent :: _ => false
  | kept, blank, .fieldCode _ :: rest =>
      blank && !startsWord rest && (kept || startsSpace rest) && separated kept false rest

/-! ## What is removed, piece by piece -/

/-- `fieldCodeAhead` -/
def ahead : List Piece → Bool
  | .text char :: rest => isBlank char && ahead rest
  | .fieldCode _ :: rest => !startsWord rest
  | _ => false

/-- What `remove` leaves. With `inMatch`, the blanks of a match have been read and its field
code not yet. -/
def removed : (inMatch : Bool) → List Piece → Text
  | _, [] => []
  | _, .text char :: rest =>
      if isBlank char && ahead rest then removed true rest else char :: removed false rest
  | _, .percent :: rest => '%' :: '%' :: removed false rest
  | true, .fieldCode _ :: rest => removed false rest
  | false, .fieldCode letter :: rest => '%' :: letter :: removed false rest

/-- The letter of a field code is no blank. -/
theorem not_isBlank_of_isFieldCode {letter : Char} (code : isFieldCode letter = true) :
    isBlank letter = false := by
  simp only [isFieldCode, List.mem_cons, List.not_mem_nil, or_false, decide_eq_true_eq] at code
  rcases code with rfl | rfl | rfl | rfl | rfl | rfl | rfl | rfl | rfl | rfl | rfl | rfl | rfl <;>
    rfl

/-- What `\s` matches is a space. -/
theorem isSpace_of_isBlank {char : Char} (blank : isBlank char = true) : isSpace char = true := by
  simp only [isBlank, decide_eq_true_eq] at blank
  simp only [isSpace, decide_eq_true_eq]
  tauto

/-- Skipped letters might as well be dropped. -/
theorem remove_skip (re : Text → Option Nat) (skip : Nat) (text : Text) :
    remove re skip text = remove re 0 (text.drop skip) := by
  induction skip generalizing text with
  | zero => rfl
  | succ skip inductionHypothesis =>
      cases text with
      | nil => rfl
      | cons char rest => rw [remove, inductionHypothesis, List.drop_succ_cons]

/-- A letter where nothing matches stays. -/
theorem remove_cons_of_none {char : Char} {rest : Text}
    (unmatched : fieldCodeRe (char :: rest) = none) :
    remove fieldCodeRe 0 (char :: rest) = char :: remove fieldCodeRe 0 rest := by
  rw [remove, unmatched]

/-- A match starts with a blank. -/
theorem fieldCodeRe_cons_of_not_isBlank {char : Char} (letter : isBlank char = false)
    (rest : Text) : fieldCodeRe (char :: rest) = none := by
  simp [fieldCodeRe, letter]

/-- Leading blanks do not matter for what lies ahead. -/
theorem fieldCodeAhead_cons_blank {char : Char} (blank : isBlank char = true) (rest : Text) :
    fieldCodeAhead (char :: rest) = fieldCodeAhead rest := by
  rw [fieldCodeAhead, List.dropWhile_cons_of_pos blank]
  rfl

/-- A character that is neither a blank nor a percent sign with something after it. -/
theorem fieldCodeAhead_cons_text {char : Char} {rest : Text} (notBlank : isBlank char = false)
    (notCode : ∀ letter others, char = '%' → rest = letter :: others → False) :
    fieldCodeAhead (char :: rest) = false := by
  rw [fieldCodeAhead, List.dropWhile_cons_of_neg (by simp [notBlank])]
  split
  next letter others shape =>
    obtain ⟨percent, rfl⟩ := List.cons.inj shape
    exact (notCode letter others percent rfl).elim
  next => rfl

/-- A percent sign with anything but the letter of a field code after it. -/
theorem fieldCodeAhead_percent {letter : Char} (notCode : isFieldCode letter = false)
    (rest : Text) : fieldCodeAhead ('%' :: letter :: rest) = false := by
  change (isFieldCode letter && _) = false
  rw [notCode, Bool.false_and]

/-- A match goes with its blanks and the two letters of its code. -/
theorem remove_cons_of_match {char : Char} {rest : Text} (blank : isBlank char = true)
    (code : fieldCodeAhead rest = true) :
    remove fieldCodeRe 0 (char :: rest) =
      remove fieldCodeRe 0 ((rest.dropWhile isBlank).drop 2) := by
  have found : fieldCodeRe (char :: rest) = some ((rest.takeWhile isBlank).length + 2 + 1) := by
    simp only [fieldCodeRe, List.head?_cons, Option.any_some, blank,
      fieldCodeAhead_cons_blank blank, code, Bool.and_self, if_true,
      List.takeWhile_cons_of_pos blank, List.length_cons]
  have split : rest.takeWhile isBlank ++ rest.dropWhile isBlank = rest :=
    List.takeWhile_append_dropWhile
  have dropped : rest.drop (rest.takeWhile isBlank).length = rest.dropWhile isBlank :=
    (congrArg (List.drop _) split.symm).trans List.drop_left
  rw [remove, found, ← dropped, List.drop_drop]
  exact remove_skip fieldCodeRe _ rest

/-- Cutting a text into pieces does not change its first letter. -/
theorem startsWord_pieces (text : Text) : startsWord (pieces text) = text.head?.any isWord := by
  fun_cases pieces text <;> rfl

/-- The recursion of `pieces` reaches every place where a match can begin. -/
theorem ahead_pieces (text : Text) : ahead (pieces text) = fieldCodeAhead text := by
  fun_induction pieces text with
  | case1 rest => rfl
  | case2 letter rest notPercent code =>
      rw [ahead, startsWord_pieces]
      change _ = (isFieldCode letter && _)
      rw [code, Bool.true_and]
  | case3 letter rest notPercent code =>
      rw [fieldCodeAhead_percent (eq_false_of_ne_true code)]
      rfl
  | case4 char rest notEscaped notCode inductionHypothesis =>
      cases blank : isBlank char with
      | true =>
          rw [fieldCodeAhead_cons_blank blank, ahead, blank, Bool.true_and, inductionHypothesis]
      | false =>
          rw [fieldCodeAhead_cons_text blank notCode, ahead, blank, Bool.false_and]
  | case5 => rfl

/-- What the regex removes, told by pieces instead of letters. -/
theorem remove_eq_removed (text : Text) :
    remove fieldCodeRe 0 text = removed false (pieces text) ∧
      (fieldCodeAhead text = true →
        remove fieldCodeRe 0 ((text.dropWhile isBlank).drop 2) = removed true (pieces text)) := by
  fun_induction pieces text with
  | case1 rest inductionHypothesis =>
      refine ⟨?_, fun code => absurd code Bool.false_ne_true⟩
      rw [remove_cons_of_none (fieldCodeRe_cons_of_not_isBlank rfl _),
        remove_cons_of_none (fieldCodeRe_cons_of_not_isBlank rfl _), inductionHypothesis.1]
      rfl
  | case2 letter rest notPercent code inductionHypothesis =>
      refine ⟨?_, fun _ => inductionHypothesis.1⟩
      have notBlank := not_isBlank_of_isFieldCode code
      rw [remove_cons_of_none (fieldCodeRe_cons_of_not_isBlank rfl _),
        remove_cons_of_none (fieldCodeRe_cons_of_not_isBlank notBlank _), inductionHypothesis.1]
      rfl
  | case3 letter rest notPercent code inductionHypothesis =>
      have unmatched := fieldCodeAhead_percent (eq_false_of_ne_true code) rest
      refine ⟨?_, fun found => absurd (unmatched.symm.trans found) Bool.false_ne_true⟩
      rw [remove_cons_of_none (fieldCodeRe_cons_of_not_isBlank rfl _), inductionHypothesis.1]
      rfl
  | case4 char rest notEscaped notCode inductionHypothesis =>
      have lookahead := ahead_pieces rest
      cases blank : isBlank char with
      | false =>
          refine ⟨?_, fun found => ?_⟩
          · rw [remove_cons_of_none (fieldCodeRe_cons_of_not_isBlank blank _),
              inductionHypothesis.1, removed, blank]
            rfl
          · rw [fieldCodeAhead_cons_text blank notCode] at found
            exact absurd found Bool.false_ne_true
      | true =>
          cases code : fieldCodeAhead rest with
          | true =>
              have opened := inductionHypothesis.2 code
              refine ⟨?_, fun _ => ?_⟩
              · rw [remove_cons_of_match blank code, opened, removed, blank, lookahead, code]
                rfl
              · rw [List.dropWhile_cons_of_pos blank, opened, removed, blank, lookahead, code]
                rfl
          | false =>
              refine ⟨?_, fun found => ?_⟩
              · rw [remove_cons_of_none, inductionHypothesis.1, removed, blank, lookahead, code]
                · rfl
                · simp [fieldCodeRe, fieldCodeAhead_cons_blank blank, code]
              · rw [fieldCodeAhead_cons_blank blank, code] at found
                exact absurd found Bool.false_ne_true
  | case5 => exact ⟨rfl, fun _ => rfl⟩

/-! ## Words that stay divided -/

/-- How many characters are no space. -/
def inkCount (text : Text) : Nat := text.countP fun char => !isSpace char

/-- One letter in front of both keeps the comparison. -/
theorem inkCount_cons_le (char : Char) {text other : Text}
    (fewer : inkCount text ≤ inkCount other) :
    inkCount (char :: text) ≤ inkCount (char :: other) := by
  simpa [inkCount, List.countP_cons] using fewer

/-- A percent sign is ink. -/
theorem inkCount_percent (text : Text) : inkCount ('%' :: text) = inkCount text + 1 :=
  List.countP_cons_of_pos rfl

/-- A letter in front takes no ink away. -/
theorem inkCount_le_cons (char : Char) (text : Text) : inkCount text ≤ inkCount (char :: text) :=
  (List.sublist_cons_self char text).countP_le

/-- No letter of the command is lost. -/
theorem inkCount_expand_le (inMatch : Bool) (line : List Piece) :
    inkCount (expand line) ≤ inkCount (removed inMatch line) := by
  induction line generalizing inMatch with
  | nil => exact Nat.le_refl 0
  | cons piece rest inductionHypothesis =>
      have going := inductionHypothesis false
      cases piece with
      | text char =>
          change inkCount (char :: expand rest) ≤ _
          rw [removed]
          split
          next code =>
            have blank := isSpace_of_isBlank (Bool.and_eq_true_iff.mp code).1
            calc inkCount (char :: expand rest) = inkCount (expand rest) := by
                  simp [inkCount, blank]
              _ ≤ inkCount (removed true rest) := inductionHypothesis true
          next => exact inkCount_cons_le char going
      | percent =>
          change inkCount ('%' :: expand rest) ≤ inkCount ('%' :: '%' :: removed false rest)
          rw [inkCount_percent, inkCount_percent, inkCount_percent]
          omega
      | fieldCode letter =>
          cases inMatch with
          | true => exact going
          | false =>
              calc inkCount (expand rest) ≤ inkCount (removed false rest) := going
                _ ≤ inkCount (letter :: removed false rest) := inkCount_le_cons ..
                _ ≤ inkCount ('%' :: letter :: removed false rest) := by
                  rw [inkCount_percent]
                  omega

/-- Texts with different ink have different letters. -/
theorem letters_ne_of_inkCount_lt {text other : Text} (fewer : inkCount other < inkCount text)
    (fresh freshOther : Bool) :
    letters isSpace fresh text ≠ letters isSpace freshOther other := by
  intro same
  have lengths := congrArg List.length same
  rw [length_letters, length_letters] at lengths
  exact absurd lengths (Nat.ne_of_gt fewer)

/-- The letters that are left and those of the command agree on where words begin. The
cases are those of what `remove` and `separated` have read before. -/
structure Agrees (line : List Piece) : Prop where
  plain : ∀ kept, letters isSpace kept (removed false line) = letters isSpace kept (expand line) ↔
    separated kept false line = true
  afterBlank : ∀ kept, ahead line = false →
    (letters isSpace true (removed false line) = letters isSpace true (expand line) ↔
      separated kept true line = true)
  inMatch : ∀ kept, ahead line = true →
    (letters isSpace kept (removed true line) = letters isSpace true (expand line) ↔
      separated kept true line = true)
  afterCode : ∀ kept,
    letters isSpace kept (removed false line) = letters isSpace true (expand line) ↔
      ((kept || startsSpace line) && separated kept false line) = true

/-- Nothing is cleaned right. -/
theorem agrees_nil : Agrees [] where
  plain kept := ⟨fun _ => rfl, fun _ => rfl⟩
  afterBlank kept _ := ⟨fun _ => rfl, fun _ => rfl⟩
  inMatch kept code := absurd code Bool.false_ne_true
  afterCode kept := ⟨fun _ => by cases kept <;> rfl, fun _ => rfl⟩

/-- A percent sign in front. -/
theorem agrees_percent (rest : List Piece) : Agrees (.percent :: rest) := by
  have fewer : inkCount (expand (.percent :: rest)) <
      inkCount (removed false (.percent :: rest)) := by
    have going := inkCount_expand_le false rest
    change inkCount ('%' :: expand rest) < inkCount ('%' :: '%' :: removed false rest)
    rw [inkCount_percent, inkCount_percent, inkCount_percent]
    omega
  have differs := letters_ne_of_inkCount_lt fewer
  exact {
    plain := fun kept => iff_of_false (differs kept kept) Bool.false_ne_true
    afterBlank := fun kept _ => iff_of_false (differs true true) Bool.false_ne_true
    inMatch := fun kept code => absurd code Bool.false_ne_true
    afterCode := fun kept => iff_of_false (differs kept true) (by simp [separated]) }

/-- A field code in front. -/
theorem agrees_fieldCode (letter : Char) {rest : List Piece} (agrees : Agrees rest) :
    Agrees (.fieldCode letter :: rest) := by
  have fewer : inkCount (expand (.fieldCode letter :: rest)) <
      inkCount (removed false (.fieldCode letter :: rest)) := by
    have going := inkCount_expand_le false rest
    have longer := inkCount_le_cons letter (removed false rest)
    change inkCount (expand rest) < inkCount ('%' :: letter :: removed false rest)
    rw [inkCount_percent]
    omega
  have differs := letters_ne_of_inkCount_lt fewer
  refine {
    plain := fun kept => iff_of_false (differs kept kept) Bool.false_ne_true
    afterBlank := fun kept code => iff_of_false (differs true true) ?_
    inMatch := fun kept code => ?_
    afterCode := fun kept => iff_of_false (differs kept true) (by simp [separated]) }
  · rw [ahead, Bool.not_eq_false'] at code
    simp [separated, code]
  · rw [ahead] at code
    rw [separated, code, Bool.true_and, Bool.true_and]
    exact agrees.afterCode kept

/-- A blank whose match begins or goes on with it. -/
theorem agrees_blank_of_ahead {char : Char} {rest : List Piece} (agrees : Agrees rest)
    (blank : isBlank char = true) (code : ahead rest = true) : Agrees (.text char :: rest) := by
  have space := isSpace_of_isBlank blank
  have left (inMatch : Bool) : removed inMatch (.text char :: rest) = removed true rest := by
    rw [removed, blank, code]
    rfl
  have command (fresh : Bool) : letters isSpace fresh (expand (.text char :: rest)) =
      letters isSpace true (expand rest) := letters_cons_blank space fresh (expand rest)
  have condition (kept before : Bool) :
      separated kept before (.text char :: rest) = separated kept true rest := by
    rw [separated, if_pos blank]
  refine {
    plain := fun kept => ?_
    afterBlank := fun kept none => ?_
    inMatch := fun kept _ => ?_
    afterCode := fun kept => ?_ }
  · rw [left, command, condition]
    exact agrees.inMatch kept code
  · rw [ahead, blank, code] at none
    exact absurd none.symm Bool.false_ne_true
  · rw [left, command, condition]
    exact agrees.inMatch kept code
  · rw [left, command, condition, startsSpace, space, Bool.or_true, Bool.true_and]
    exact agrees.inMatch kept code

/-- A letter that no match starts at stays. -/
theorem removed_of_stays {char : Char} {rest : List Piece}
    (stays : (isBlank char && ahead rest) = false) (inMatch : Bool) :
    removed inMatch (.text char :: rest) = char :: removed false rest := by
  rw [removed, stays]
  rfl

/-- A space that no match takes. What stands before it does not matter any more. -/
theorem agrees_space {char : Char} {rest : List Piece} (agrees : Agrees rest)
    (space : isSpace char = true) (stays : (isBlank char && ahead rest) = false) :
    Agrees (.text char :: rest) := by
  have divided (fresh freshOther kept before : Bool) :
      letters isSpace fresh (removed false (.text char :: rest)) =
          letters isSpace freshOther (expand (.text char :: rest)) ↔
        separated kept before (.text char :: rest) = true := by
    change _ = letters isSpace freshOther (char :: expand rest) ↔ _
    rw [removed_of_stays stays, letters_cons_blank space, letters_cons_blank space, separated]
    cases blank : isBlank char with
    | true =>
        rw [blank, Bool.true_and] at stays
        exact agrees.afterBlank kept stays
    | false =>
        rw [space]
        exact agrees.plain true
  refine {
    plain := fun kept => divided kept kept kept false
    afterBlank := fun kept _ => divided true true kept true
    inMatch := fun kept code => absurd (stays.symm.trans code) Bool.false_ne_true
    afterCode := fun kept => ?_ }
  rw [startsSpace, space, Bool.or_true, Bool.true_and]
  exact divided kept true kept false

/-- A letter of the command. Both sides have to agree on whether a word begins at it. -/
theorem agrees_letter {char : Char} {rest : List Piece} (agrees : Agrees rest)
    (letter : isSpace char = false) : Agrees (.text char :: rest) := by
  have blank : isBlank char = false :=
    Bool.eq_false_iff.mpr fun blank =>
      absurd (letter.symm.trans (isSpace_of_isBlank blank)) Bool.false_ne_true
  have stays : (isBlank char && ahead rest) = false := by rw [blank, Bool.false_and]
  have condition (kept before : Bool) :
      separated kept before (.text char :: rest) = separated false false rest := by
    rw [separated, blank, letter]
    rfl
  have divided (fresh freshOther : Bool) :
      letters isSpace fresh (removed false (.text char :: rest)) =
          letters isSpace freshOther (expand (.text char :: rest)) ↔
        fresh = freshOther ∧ separated false false rest = true := by
    change _ = letters isSpace freshOther (char :: expand rest) ↔ _
    rw [removed_of_stays stays, letters_cons_letter letter, letters_cons_letter letter,
      List.cons.injEq, Prod.mk.injEq, and_iff_left rfl, agrees.plain false]
  refine {
    plain := fun kept => ?_
    afterBlank := fun kept _ => ?_
    inMatch := fun kept code => absurd (stays.symm.trans code) Bool.false_ne_true
    afterCode := fun kept => ?_ }
  · rw [divided, condition, and_iff_right rfl]
  · rw [divided, condition, and_iff_right rfl]
  · rw [divided, condition, startsSpace, letter, Bool.or_false, Bool.and_eq_true]

/-- By induction on the pieces, one case for each kind. -/
theorem agrees (line : List Piece) : Agrees line := by
  induction line with
  | nil => exact agrees_nil
  | cons piece rest inductionHypothesis =>
      cases piece with
      | text char =>
          cases removal : isBlank char && ahead rest with
          | true =>
              obtain ⟨blank, code⟩ := Bool.and_eq_true_iff.mp removal
              exact agrees_blank_of_ahead inductionHypothesis blank code
          | false =>
              cases space : isSpace char with
              | true => exact agrees_space inductionHypothesis space removal
              | false => exact agrees_letter inductionHypothesis space
      | percent => exact agrees_percent rest
      | fieldCode letter => exact agrees_fieldCode letter inductionHypothesis

/-- The words come out right exactly when the pieces are separated. -/
theorem words_cleanExecLine_iff (exec : Text) :
    words isSpace (cleanExecLine exec) = words isSpace (expand (pieces exec)) ↔
      separated true false (pieces exec) = true := by
  rw [words_eq_iff, cleanExecLine, letters_trimmed, (remove_eq_removed exec).1]
  exact (agrees (pieces exec)).plain true

/-! ## The text that stays -/

/-- In a separated line every code ahead is the next piece. -/
theorem codeNext_of_separated {kept : Bool} {line : List Piece}
    (apart : separated kept true line = true) : codeNext line = ahead line := by
  induction line generalizing kept with
  | nil => rfl
  | cons piece rest inductionHypothesis =>
      cases piece with
      | text char =>
          rw [codeNext, ahead]
          cases blank : isBlank char with
          | true =>
              rw [separated, if_pos blank] at apart
              rw [inductionHypothesis apart]
          | false => rfl
      | percent => rfl
      | fieldCode letter =>
          simp only [separated, Bool.and_eq_true] at apart
          exact apart.1.1.2.symm

/-- A separated line loses exactly its field codes. -/
theorem removed_of_separated {kept blank : Bool} {line : List Piece}
    (apart : separated kept blank line = true) :
    removed (blank && ahead line) line = expandClosed line := by
  induction line generalizing kept blank with
  | nil => cases blank <;> rfl
  | cons piece rest inductionHypothesis =>
      cases piece with
      | text char =>
          rw [separated] at apart
          rw [removed, expandClosed]
          cases isBlank : isBlank char with
          | true =>
              rw [if_pos isBlank] at apart
              have left := inductionHypothesis apart
              rw [codeNext_of_separated apart, Bool.true_and]
              rw [Bool.true_and] at left
              cases code : ahead rest with
              | true => rw [← left, code]; rfl
              | false => rw [← left, code]; rfl
          | false =>
              rw [isBlank] at apart
              have left := inductionHypothesis apart
              rw [Bool.false_and, ← left]
              rfl
      | percent => exact absurd apart Bool.false_ne_true
      | fieldCode letter =>
          simp only [separated, Bool.and_eq_true] at apart
          obtain ⟨⟨⟨spaced, bounded⟩, -⟩, later⟩ := apart
          rw [spaced, ahead, bounded]
          exact inductionHypothesis later

/-! ## Cleaning again -/

/-- Without a percent sign no code lies ahead. -/
theorem fieldCodeAhead_of_no_percent {text : Text} (none : '%' ∉ text) :
    fieldCodeAhead text = false := by
  rw [fieldCodeAhead]
  split
  next letter rest shape =>
    have member : '%' ∈ text.dropWhile isBlank := shape ▸ List.mem_cons_self
    exact absurd ((List.dropWhile_sublist isBlank).mem member) none
  next => rfl

/-- Without a percent sign nothing is removed. -/
theorem remove_of_no_percent {text : Text} (none : '%' ∉ text) :
    remove fieldCodeRe 0 text = text := by
  induction text with
  | nil => rfl
  | cons char rest inductionHypothesis =>
      have unmatched : fieldCodeRe (char :: rest) = Option.none := by
        rw [fieldCodeRe, fieldCodeAhead_of_no_percent none, Bool.and_false]
        rfl
      rw [remove_cons_of_none unmatched,
        inductionHypothesis fun member => none (List.mem_cons_of_mem _ member)]

/-- A line that has lost its percent signs is clean. -/
theorem cleanExecLine_cleanExecLine {exec : Text} (none : '%' ∉ cleanExecLine exec) :
    cleanExecLine (cleanExecLine exec) = cleanExecLine exec := by
  conv_lhs => rw [cleanExecLine, remove_of_no_percent none]
  exact trimmed_trimmed _

/-- An `Exec` value becomes the command that a launcher would run exactly if its field codes
stand alone. Cleaning again changes nothing in either case. -/
theorem cleanExecLine_command_iff (exec : Text) :
    (LauncherCommand exec (cleanExecLine exec) ∧
        ('%' ∉ cleanExecLine exec →
          cleanExecLine (cleanExecLine exec) = cleanExecLine exec)) ↔
      separated true false (pieces exec) = true := by
  constructor
  · rintro ⟨command, -⟩
    exact (words_cleanExecLine_iff exec).mp command.words
  · intro apart
    refine ⟨⟨(words_cleanExecLine_iff exec).mpr apart, ?_⟩, cleanExecLine_cleanExecLine⟩
    rw [cleanExecLine, (remove_eq_removed exec).1]
    exact congrArg (trimmed isSpace) (removed_of_separated apart)

/-- `app --url=%u` is left as it is. -/
theorem attached_code_stays :
    ¬ (LauncherCommand "app --url=%u".toList (cleanExecLine "app --url=%u".toList) ∧
        ('%' ∉ cleanExecLine "app --url=%u".toList →
          cleanExecLine (cleanExecLine "app --url=%u".toList) =
            cleanExecLine "app --url=%u".toList)) := by
  rintro ⟨command, -⟩
  exact absurd command.words (by decide)

end CoderDesktop.Apps
