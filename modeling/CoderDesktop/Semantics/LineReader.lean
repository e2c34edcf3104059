import Mathlib.Data.List.Basic
import Mathlib.Data.List.Induction

/-!
# Reading lines from a stream that arrives in chunks

A reader keeps what has arrived in a buffer and, after each chunk, handles the lines that
are complete. Lines end at either of two separators, of which one is looked for in the
whole buffer before the other. So what is one line depends on how the stream is cut: a
primary separator that has arrived takes the secondary ones before it into its line.

`byLines` ends a line at every separator. Every way of cutting a stream gives the same
exactly when handling such a line as a whole is the same as handling it in parts
(`cutsAgree_iff`).
-/

namespace CoderDesktop.Semantics

universe u v w

/-- How a reader handles a line in a state: what it emits, and how that changes the state. -/
structure LineReader (Byte : Type u) (State : Type v) (Out : Type w) where
  primary : Byte
  secondary : Byte
  emits : State → List Byte → List Out
  settle : State → Out → State

/-- Where a reader is in its stream. -/
@[ext] structure Reading (Byte : Type u) (State : Type v) (Out : Type w) where
  state : State
  buffer : List Byte
  emitted : List Out
deriving DecidableEq, Repr

/-- Nothing has arrived. -/
def Reading.start {Byte : Type u} {State : Type v} {Out : Type w} (state : State) :
    Reading Byte State Out :=
  ⟨state, [], []⟩

section Cut

variable {Byte : Type u} [DecidableEq Byte]

/-- What stands before and after the first separator. -/
def cut (separator : Byte) : List Byte → Option (List Byte × List Byte)
  | [] => none
  | byte :: rest =>
      if byte = separator then some ([], rest)
      else (cut separator rest).map fun parts => (byte :: parts.1, parts.2)

/-- Nothing is cut without a separator. -/
theorem cut_eq_none_iff {separator : Byte} {bytes : List Byte} :
    cut separator bytes = none ↔ separator ∉ bytes := by
  induction bytes with
  | nil => simp [cut]
  | cons byte rest inductionHypothesis =>
      by_cases here : byte = separator
      · simp [cut, here]
      · simp [cut, here, inductionHypothesis, Ne.symm here]

/-- The cut is at the first separator. -/
theorem cut_eq_some_iff {separator : Byte} {bytes line rest : List Byte} :
    cut separator bytes = some (line, rest) ↔
      bytes = line ++ separator :: rest ∧ separator ∉ line := by
  induction bytes generalizing line with
  | nil => simp [cut]
  | cons byte more inductionHypothesis =>
      by_cases here : byte = separator
      · cases line with
        | nil => simp [cut, here]
        | cons first line => simp [cut, here]; grind
      · cases line with
        | nil => simp [cut, here]
        | cons first line =>
            simp only [cut, if_neg here, Option.map_eq_some_iff, Prod.exists, Prod.mk.injEq,
              List.cons.injEq, List.cons_append, List.mem_cons, not_or]
            grind

end Cut

namespace LineReader

variable {Byte : Type u} {State : Type v} {Out : Type w} [DecidableEq Byte]
  (reader : LineReader Byte State Out)

/-- The next line and what follows it. -/
def takeLine (buffer : List Byte) : Option (List Byte × List Byte) :=
  (cut reader.primary buffer).or (cut reader.secondary buffer)

/-- Handle a line; `rest` stays in the buffer. -/
def handle (reading : Reading Byte State Out) (line rest : List Byte) :
    Reading Byte State Out :=
  let outs := reader.emits reading.state line
  ⟨outs.foldl reader.settle reading.state, rest, reading.emitted ++ outs⟩

/-- A line shortens the buffer. -/
theorem length_lt_of_takeLine {buffer line rest : List Byte}
    (found : reader.takeLine buffer = some (line, rest)) : rest.length < buffer.length := by
  rcases Option.or_eq_some_iff.mp found with first | ⟨-, second⟩
  · rw [(cut_eq_some_iff.mp first).1, List.length_append, List.length_cons]
    omega
  · rw [(cut_eq_some_iff.mp second).1, List.length_append, List.length_cons]
    omega

/-- Handle the complete lines of the buffer. -/
def drain (reading : Reading Byte State Out) : Reading Byte State Out :=
  match _found : reader.takeLine reading.buffer with
  | none => reading
  | some (line, rest) => drain (reader.handle reading line rest)
termination_by reading.buffer.length
decreasing_by exact reader.length_lt_of_takeLine _found

/-- A chunk arrives. -/
def feed (reading : Reading Byte State Out) (chunk : List Byte) : Reading Byte State Out :=
  reader.drain { reading with buffer := reading.buffer ++ chunk }

/-- The chunks are read one after the other. -/
def feedAll (reading : Reading Byte State Out) (chunks : List (List Byte)) :
    Reading Byte State Out :=
  chunks.foldl reader.feed reading

/-! ## Line by line -/

/-- A byte arrives, and ends a line if it is a separator. -/
def accept (reading : Reading Byte State Out) (byte : Byte) : Reading Byte State Out :=
  if byte = reader.primary ∨ byte = reader.secondary then
    reader.handle reading reading.buffer []
  else { reading with buffer := reading.buffer ++ [byte] }

/-- Read a stream, ending a line at every separator. -/
def byLines (reading : Reading Byte State Out) (stream : List Byte) : Reading Byte State Out :=
  stream.foldl reader.accept reading

variable {reader} {reading : Reading Byte State Out}

/-- Without a line the reader waits. -/
theorem drain_of_none (noLine : reader.takeLine reading.buffer = none) :
    reader.drain reading = reading := by
  rw [drain]
  split
  · rfl
  · next found => rw [noLine] at found; cases found

/-- A line is handled and the rest drained. -/
theorem drain_of_some {line rest : List Byte}
    (found : reader.takeLine reading.buffer = some (line, rest)) :
    reader.drain reading = reader.drain (reader.handle reading line rest) := by
  rw [drain]
  split
  · next noLine => rw [noLine] at found; cases found
  · next line' rest' found' =>
      rw [found, Option.some_inj, Prod.mk.injEq] at found'
      rw [found'.1, found'.2]

/-- What was emitted before plays no role. -/
theorem drain_emitted (state : State) (buffer : List Byte) (emitted : List Out) :
    reader.drain ⟨state, buffer, emitted⟩ =
      { reader.drain ⟨state, buffer, []⟩ with
        emitted := emitted ++ (reader.drain ⟨state, buffer, []⟩).emitted } := by
  have lines (emitted : List Out) :
      reader.takeLine (Reading.mk state buffer emitted).buffer = reader.takeLine buffer := rfl
  cases found : reader.takeLine buffer with
  | none =>
      rw [drain_of_none ((lines emitted).trans found), drain_of_none ((lines []).trans found),
        List.append_nil]
  | some parts =>
      obtain ⟨line, rest⟩ := parts
      have shorter := reader.length_lt_of_takeLine found
      rw [drain_of_some ((lines emitted).trans found), drain_of_some ((lines []).trans found),
        handle, handle, drain_emitted _ rest (emitted ++ _), drain_emitted _ rest ([] ++ _),
        List.nil_append, List.append_assoc]
termination_by buffer.length

/-- Chunks are read one after the other. -/
theorem feedAll_append (first second : List (List Byte)) :
    reader.feedAll reading (first ++ second) =
      reader.feedAll (reader.feedAll reading first) second :=
  List.foldl_append

/-- Lines are handled one after the other. -/
theorem byLines_append (first second : List Byte) :
    reader.byLines reading (first ++ second) =
      reader.byLines (reader.byLines reading first) second :=
  List.foldl_append

/-- Bytes that end no line are kept. -/
theorem byLines_of_no_separator {bytes : List Byte} (noPrimary : reader.primary ∉ bytes)
    (noSecondary : reader.secondary ∉ bytes) :
    reader.byLines reading bytes = { reading with buffer := reading.buffer ++ bytes } := by
  induction bytes generalizing reading with
  | nil => simp [byLines]
  | cons byte rest inductionHypothesis =>
      rw [List.mem_cons, not_or] at noPrimary noSecondary
      have kept : reader.accept reading byte =
          { reading with buffer := reading.buffer ++ [byte] } :=
        if_neg (not_or.mpr ⟨Ne.symm noPrimary.1, Ne.symm noSecondary.1⟩)
      change reader.byLines (reader.accept reading byte) rest = _
      rw [kept, inductionHypothesis noPrimary.2 noSecondary.2, List.append_assoc,
        List.singleton_append]

/-- A line and the separator after it. -/
theorem byLines_line {line : List Byte} {separator : Byte}
    (separates : separator = reader.primary ∨ separator = reader.secondary)
    (noPrimary : reader.primary ∉ line) (noSecondary : reader.secondary ∉ line) :
    reader.byLines reading (line ++ [separator]) =
      reader.handle reading (reading.buffer ++ line) [] := by
  rw [byLines_append, byLines_of_no_separator noPrimary noSecondary]
  exact if_pos separates

/-- Without a primary separator the order of the search plays no role. -/
theorem drain_of_no_primary (reading : Reading Byte State Out)
    (noPrimary : reader.primary ∉ reading.buffer) :
    reader.drain reading = reader.byLines { reading with buffer := [] } reading.buffer := by
  have noFirst := cut_eq_none_iff.mpr noPrimary
  cases second : cut reader.secondary reading.buffer with
  | none =>
      have noLine : reader.takeLine reading.buffer = none := by
        rw [takeLine, noFirst, second]
        rfl
      rw [drain_of_none noLine,
        byLines_of_no_separator noPrimary (cut_eq_none_iff.mp second), List.nil_append]
  | some parts =>
      obtain ⟨line, rest⟩ := parts
      have found : reader.takeLine reading.buffer = some (line, rest) := by
        rw [takeLine, noFirst, second]
        rfl
      have shorter := reader.length_lt_of_takeLine found
      obtain ⟨split, noSecondary⟩ := cut_eq_some_iff.mp second
      rw [split, List.mem_append, List.mem_cons, not_or, not_or] at noPrimary
      rw [drain_of_some found, drain_of_no_primary _ noPrimary.2.2, split, List.append_cons,
        byLines_append, byLines_line (.inr rfl) noPrimary.1 noSecondary]
      rfl
termination_by reading.buffer.length

/-- What stands before a primary separator is one line. -/
theorem drain_of_primary {line rest : List Byte}
    (split : reading.buffer = line ++ reader.primary :: rest) (first : reader.primary ∉ line) :
    reader.drain reading = reader.drain (reader.handle reading line rest) := by
  refine drain_of_some ?_
  rw [takeLine, cut_eq_some_iff.mpr ⟨split, first⟩]
  rfl

/-! ## Cuts that do not matter -/

variable (reader) in
/-- The bytes stop at the end of a line. -/
def EndsLine (bytes : List Byte) : Prop :=
  ∀ byte ∈ bytes.getLast?, byte = reader.primary ∨ byte = reader.secondary

omit [DecidableEq Byte] in
/-- A separator ends a line. -/
theorem endsLine_concat (bytes : List Byte) {separator : Byte}
    (separates : separator = reader.primary ∨ separator = reader.secondary) :
    reader.EndsLine (bytes ++ [separator]) := by
  intro byte last
  rw [List.getLast?_concat, Option.mem_some_iff] at last
  exact last ▸ separates

/-- At the end of a line the buffer is empty. -/
theorem buffer_byLines_of_endsLine (empty : reading.buffer = []) {bytes : List Byte}
    (ends : reader.EndsLine bytes) : (reader.byLines reading bytes).buffer = [] := by
  rcases List.eq_nil_or_concat bytes with rfl | ⟨front, last, rfl⟩
  · exact empty
  · rw [List.concat_eq_append] at ends ⊢
    have separates := ends last (by simp)
    rw [byLines_append]
    change (reader.accept _ last).buffer = []
    rw [accept, if_pos separates]
    rfl

/-- The part of the bytes that is no line yet. -/
theorem exists_last_line (reader : LineReader Byte State Out) (bytes : List Byte) :
    ∃ before tail, bytes = before ++ tail ∧ reader.EndsLine before ∧
      reader.primary ∉ tail ∧ reader.secondary ∉ tail := by
  induction bytes using List.reverseRecOn with
  | nil => exact ⟨[], [], rfl, nofun, List.not_mem_nil, List.not_mem_nil⟩
  | append_singleton bytes byte inductionHypothesis =>
      by_cases separates : byte = reader.primary ∨ byte = reader.secondary
      · exact ⟨bytes ++ [byte], [], (List.append_nil _).symm, endsLine_concat bytes separates,
          List.not_mem_nil, List.not_mem_nil⟩
      · obtain ⟨before, tail, rfl, ends, noPrimary, noSecondary⟩ := inductionHypothesis
        obtain ⟨notPrimary, notSecondary⟩ := not_or.mp separates
        refine ⟨before, tail ++ [byte], List.append_assoc _ _ _, ends, ?_, ?_⟩
        · simp [noPrimary, Ne.symm notPrimary]
        · simp [noSecondary, Ne.symm notSecondary]

variable (reader) in
/-- Wherever a primary separator can take secondary ones into its line, it does not matter:
the whole from the end of an earlier line is handled as its parts are. -/
def Mergeable (start : Reading Byte State Out) (stream : List Byte) : Prop :=
  ∀ before stretch after, stream = before ++ stretch ++ reader.primary :: after →
    reader.EndsLine before → reader.primary ∉ stretch →
    reader.handle (reader.byLines start before) stretch [] =
      reader.byLines (reader.byLines start before) (stretch ++ [reader.primary])

section Cutting

variable {start : Reading Byte State Out}

/-- A stream in which every primary separator comes before every secondary one. -/
theorem mergeable_of_primary_first (empty : start.buffer = []) {stream : List Byte}
    (primaryFirst : ∀ front after, stream = front ++ reader.primary :: after →
      reader.secondary ∉ front) : reader.Mergeable start stream := by
  intro before stretch after split ends first
  have noSecondary : reader.secondary ∉ stretch := fun member =>
    primaryFirst _ after split (List.mem_append_right _ member)
  rw [byLines_line (.inl rfl) first noSecondary, buffer_byLines_of_endsLine empty ends,
    List.nil_append]

/-- After the end of a line, a text is drained line by line. -/
theorem drain_of_mergeable (empty : start.buffer = []) {before : List Byte}
    (ends : reader.EndsLine before) (text after : List Byte)
    (mergeable : reader.Mergeable start (before ++ text ++ after)) :
    reader.drain { reader.byLines start before with buffer := text } =
      reader.byLines (reader.byLines start before) text := by
  cases found : cut reader.primary text with
  | none =>
      rw [drain_of_no_primary _ (cut_eq_none_iff.mp found),
        ← buffer_byLines_of_endsLine empty ends]
  | some parts =>
      obtain ⟨stretch, rest⟩ := parts
      obtain ⟨split, first⟩ := cut_eq_some_iff.mp found
      have shorter : rest.length < text.length := by
        rw [split, List.length_append, List.length_cons]
        omega
      have merged := mergeable before stretch (rest ++ after) (by simp [split]) ends first
      have regrouped : before ++ text ++ after =
          before ++ stretch ++ [reader.primary] ++ rest ++ after := by
        simp [split]
      rw [regrouped] at mergeable
      have further := drain_of_mergeable empty (endsLine_concat (before ++ stretch) (.inl rfl))
        rest after mergeable
      have handled : reader.handle { reader.byLines start before with buffer := text } stretch
          rest = { reader.byLines start (before ++ stretch ++ [reader.primary]) with
            buffer := rest } := by
        rw [List.append_assoc, byLines_append, ← merged]
        rfl
      rw [drain_of_primary split first, handled, further, List.append_assoc, byLines_append,
        ← byLines_append, List.append_assoc, List.singleton_append, ← split]
termination_by text.length

/-- However a stream is cut, it is read line by line. -/
theorem feedAll_of_mergeable (empty : start.buffer = []) (chunks : List (List Byte))
    (after : List Byte) (mergeable : reader.Mergeable start (chunks.flatten ++ after)) :
    reader.feedAll start chunks = reader.byLines start chunks.flatten := by
  induction chunks using List.reverseRecOn generalizing after with
  | nil => rfl
  | append_singleton chunks chunk inductionHypothesis =>
      rw [List.flatten_concat] at mergeable ⊢
      obtain ⟨before, tail, split, ends, noPrimary, noSecondary⟩ :=
        reader.exists_last_line chunks.flatten
      have read := inductionHypothesis (chunk ++ after) (by rwa [← List.append_assoc])
      have kept : reader.byLines start chunks.flatten =
          { reader.byLines start before with buffer := tail } := by
        rw [split, byLines_append, byLines_of_no_separator noPrimary noSecondary,
          buffer_byLines_of_endsLine empty ends, List.nil_append]
      rw [feedAll_append, read, kept, split]
      rw [split] at mergeable
      change reader.drain { reader.byLines start before with buffer := tail ++ chunk } = _
      rw [drain_of_mergeable empty ends (tail ++ chunk) after (by simpa using mergeable),
        ← byLines_append, List.append_assoc]

/-- Reading a stream byte by byte is reading it line by line. -/
theorem feedAll_singletons (noPrimary : reader.primary ∉ reading.buffer)
    (noSecondary : reader.secondary ∉ reading.buffer) (stream : List Byte) :
    reader.feedAll reading (stream.map fun byte => [byte]) = reader.byLines reading stream := by
  induction stream generalizing reading with
  | nil => rfl
  | cons byte rest inductionHypothesis =>
      have accepted : reader.feed reading [byte] = reader.accept reading byte := by
        rw [feed]
        by_cases isPrimary : byte = reader.primary
        · rw [drain_of_primary (by rw [isPrimary]) noPrimary, drain_of_none rfl, accept,
            if_pos (.inl isPrimary)]
          rfl
        · have absent : reader.primary ∉ reading.buffer ++ [byte] := by
            simp [noPrimary, Ne.symm isPrimary]
          rw [drain_of_no_primary _ absent, byLines_append,
            byLines_of_no_separator noPrimary noSecondary, List.nil_append]
          rfl
      change reader.feedAll (reader.feed reading [byte]) (rest.map fun byte => [byte]) = _
      rw [accepted]
      refine inductionHypothesis ?_ ?_
      all_goals
        rw [accept]
        split
        · exact List.not_mem_nil
        · next separates =>
            obtain ⟨notPrimary, notSecondary⟩ := not_or.mp separates
            simp [noPrimary, noSecondary, Ne.symm notPrimary, Ne.symm notSecondary]

/-- What is emitted comes on top, and decides the state. -/
theorem byLines_emits (reading : Reading Byte State Out) (text : List Byte) :
    ∃ outs, (reader.byLines reading text).emitted = reading.emitted ++ outs ∧
      (reader.byLines reading text).state = outs.foldl reader.settle reading.state := by
  induction text generalizing reading with
  | nil => exact ⟨[], (List.append_nil _).symm, rfl⟩
  | cons byte rest inductionHypothesis =>
      obtain ⟨outs, emitted, state⟩ := inductionHypothesis (reader.accept reading byte)
      change (reader.byLines (reader.accept reading byte) rest).emitted = _ at emitted
      by_cases separates : byte = reader.primary ∨ byte = reader.secondary
      · have handled : reader.accept reading byte = reader.handle reading reading.buffer [] :=
          if_pos separates
        rw [handled] at emitted state
        refine ⟨reader.emits reading.state reading.buffer ++ outs, ?_, ?_⟩
        · change (reader.byLines (reader.accept reading byte) rest).emitted = _
          rw [handled, emitted, handle, List.append_assoc]
        · change (reader.byLines (reader.accept reading byte) rest).state = _
          rw [handled, state, List.foldl_append]
          rfl
      · have kept : reader.accept reading byte =
            { reading with buffer := reading.buffer ++ [byte] } := if_neg separates
        rw [kept] at emitted state
        refine ⟨outs, ?_, ?_⟩
        · change (reader.byLines (reader.accept reading byte) rest).emitted = _
          rw [kept, emitted]
        · change (reader.byLines (reader.accept reading byte) rest).state = _
          rw [kept, state]

/-- How much is emitted does not depend on the state, if it does not for a line. -/
theorem length_byLines (steady : ∀ state other line,
      (reader.emits state line).length = (reader.emits other line).length)
    {left right : Reading Byte State Out} (sameBuffer : left.buffer = right.buffer)
    (text : List Byte) :
    (reader.byLines left text).emitted.length + right.emitted.length =
      (reader.byLines right text).emitted.length + left.emitted.length := by
  induction text generalizing left right with
  | nil => exact Nat.add_comm _ _
  | cons byte rest inductionHypothesis =>
      change (reader.byLines (reader.accept left byte) rest).emitted.length + _ =
        (reader.byLines (reader.accept right byte) rest).emitted.length + _
      by_cases separates : byte = reader.primary ∨ byte = reader.secondary
      · have further := @inductionHypothesis (reader.handle left left.buffer [])
          (reader.handle right right.buffer []) rfl
        have sameLength := steady left.state right.state right.buffer
        rw [accept, accept, if_pos separates, if_pos separates]
        simp only [handle, List.length_append, sameBuffer] at further ⊢
        omega
      · rw [accept, accept, if_neg separates, if_neg separates]
        exact @inductionHypothesis { left with buffer := left.buffer ++ [byte] }
          { right with buffer := right.buffer ++ [byte] } (congrArg (· ++ [byte]) sameBuffer)

/-- A reader gives the same however its stream is cut exactly when the stream is mergeable. -/
theorem cutsAgree_iff (steady : ∀ state other line,
      (reader.emits state line).length = (reader.emits other line).length)
    (empty : start.buffer = []) (stream : List Byte) :
    (∀ first second : List (List Byte), first.flatten = stream → second.flatten = stream →
        (reader.feedAll start first).emitted = (reader.feedAll start second).emitted ∧
          (reader.feedAll start first).buffer = (reader.feedAll start second).buffer) ↔
      reader.Mergeable start stream := by
  constructor
  · rintro agree before stretch after rfl ends first
    have flatten (bytes : List Byte) : (bytes.map fun byte => [byte]).flatten = bytes := by
      rw [← List.flatMap_def, List.flatMap_singleton']
    have absent {separator : Byte} {reading : Reading Byte State Out}
        (nothing : reading.buffer = []) : separator ∉ reading.buffer := by
      rw [nothing]
      exact List.not_mem_nil
    have emptyBefore := buffer_byLines_of_endsLine empty ends
    -- one cut arrives byte by byte; the other has the stretch and its separator in one chunk
    have same := (agree _ (before.map (fun byte => [byte]) ++ [stretch ++ [reader.primary]] ++
      after.map fun byte => [byte]) (flatten _) (by simp [flatten])).1
    have parted : (reader.byLines (reader.byLines start before)
        (stretch ++ [reader.primary])).buffer = [] := by
      rw [← byLines_append]
      refine buffer_byLines_of_endsLine empty ?_
      rw [← List.append_assoc]
      exact endsLine_concat _ (.inl rfl)
    have merged : reader.feed (reader.byLines start before) (stretch ++ [reader.primary]) =
        reader.handle (reader.byLines start before) stretch [] := by
      have split : ({ reader.byLines start before with
          buffer := (reader.byLines start before).buffer ++ (stretch ++ [reader.primary]) } :
            Reading Byte State Out).buffer = stretch ++ reader.primary :: [] := by
        simp [emptyBefore]
      rw [feed, drain_of_primary split first, drain_of_none rfl]
      rfl
    rw [feedAll_singletons (absent empty) (absent empty), feedAll_append, feedAll_append,
      feedAll_singletons (absent empty) (absent empty)] at same
    change _ = (reader.feedAll (reader.feed (reader.byLines start before)
      (stretch ++ [reader.primary])) _).emitted at same
    rw [merged, feedAll_singletons (absent rfl) (absent rfl),
      List.append_cons, byLines_append, List.append_assoc, byLines_append] at same
    obtain ⟨parts, partsEmitted, partsState⟩ :=
      byLines_emits (reader.byLines start before) (stretch ++ [reader.primary])
    obtain ⟨rest, restEmitted, -⟩ := byLines_emits
      (reader.byLines (reader.byLines start before) (stretch ++ [reader.primary])) after
    obtain ⟨rest', restEmitted', -⟩ := byLines_emits
      (reader.handle (reader.byLines start before) stretch []) after
    have counted := @length_byLines _ _ _ _ reader steady
      (reader.handle (reader.byLines start before) stretch []) _ parted.symm after
    have sameRest : rest.length = rest'.length := by
      rw [restEmitted, restEmitted', List.length_append, List.length_append] at counted
      omega
    rw [restEmitted, restEmitted', partsEmitted] at same
    have sameOuts : parts = reader.emits (reader.byLines start before).state stretch :=
      List.append_cancel_left (List.append_inj' same sameRest).1
    ext1
    · rw [partsState, sameOuts]
      rfl
    · exact parted.symm
    · rw [partsEmitted, sameOuts]
      rfl
  · intro mergeable first second sameFirst sameSecond
    have whole : reader.Mergeable start (stream ++ []) := by rwa [List.append_nil]
    have readFirst := feedAll_of_mergeable empty first [] (sameFirst ▸ whole)
    have readSecond := feedAll_of_mergeable empty second [] (sameSecond ▸ whole)
    rw [readFirst, readSecond, sameFirst, sameSecond]
    exact ⟨rfl, rfl⟩

end Cutting

end LineReader

end CoderDesktop.Semantics
