import CoderDesktop.Data.SecureStorage
import CoderDesktop.Encoding.Words
import CoderDesktop.FileSync.TransferBooks
import CoderDesktop.Semantics.LineReader

/-!
# The progress of scp

`parseScpProgress` reads the error output of a process as it comes. A line of progress
gives a percentage and a size; how a size becomes a number of bytes goes through floating
point and is a parameter here.
-/

namespace CoderDesktop.FileSync

open Encoding Semantics

/-! ## Lines of progress -/

/-- The units of scp's progress line. -/
inductive SizeUnit where
  | b
  | kb
  | mb
  | gb
  | tb
deriving DecidableEq, Repr

/-- A size as it is written: the digits, and how many of them follow the point. -/
structure ScpSize where
  digits : Nat
  places : Nat
  unit : SizeUnit
deriving DecidableEq, Repr

/-- What `progressRe` captures. -/
structure ProgressMatch where
  percent : Nat
  size : ScpSize
deriving DecidableEq, Repr

/-- The value of a run of digits. -/
def decimal (digits : List Char) : Nat :=
  digits.foldl (fun value digit => value * 10 + (digit.toNat - '0'.toNat)) 0

/-- `(?:\.\d+)?`, with what follows it. -/
def fractionAt : List Char → List Char × List Char
  | '.' :: rest =>
      let fraction := rest.takeWhile Char.isDigit
      if fraction = [] then ([], '.' :: rest) else (fraction, rest.dropWhile Char.isDigit)
  | rest => ([], rest)

/-- `(KB|MB|GB|TB|B)`, with what follows it. -/
def unitAt : List Char → Option (SizeUnit × List Char)
  | 'K' :: 'B' :: rest => some (.kb, rest)
  | 'M' :: 'B' :: rest => some (.mb, rest)
  | 'G' :: 'B' :: rest => some (.gb, rest)
  | 'T' :: 'B' :: rest => some (.tb, rest)
  | 'B' :: rest => some (.b, rest)
  | _ => none

/-- `(\d+(?:\.\d+)?)(KB|MB|GB|TB|B)\s` -/
def sizeAt (text : List Char) : Option ScpSize :=
  let whole := text.takeWhile Char.isDigit
  let (fraction, rest) := fractionAt (text.dropWhile Char.isDigit)
  if whole = [] then none
  else
    match unitAt rest with
    | some (unit, next :: _) =>
        if isBlank next then some ⟨decimal (whole ++ fraction), fraction.length, unit⟩ else none
    | _ => none

/-- `\s+(\d{1,3})%\s+…` at the start of a text. No other choice of how much a part takes
can match: a run of digits or blanks is followed by something else. -/
def progressAt (text : List Char) : Option ProgressMatch :=
  let percent := (text.dropWhile isBlank).takeWhile Char.isDigit
  if ¬ text.head?.any isBlank ∨ percent = [] ∨ 3 < percent.length then none
  else
    match (text.dropWhile isBlank).dropWhile Char.isDigit with
    | '%' :: rest =>
        if rest.head?.any isBlank then
          (sizeAt (rest.dropWhile isBlank)).map fun size => ⟨decimal percent, size⟩
        else none
    | _ => none

/-- `progressRe.match`: the leftmost place that matches. -/
def progressRe : List Char → Option ProgressMatch
  | [] => none
  | char :: rest => (progressAt (char :: rest)).or (progressRe rest)

/-- `QByteArray::trimmed` -/
def trimmed (line : List UInt8) : List UInt8 :=
  let blank (byte : UInt8) : Bool := byte = 32 ∨ (9 ≤ byte ∧ byte ≤ 13)
  ((line.dropWhile blank).reverse.dropWhile blank).reverse

/-- The progress a line tells of. An empty line is skipped. -/
def lineProgress (line : List UInt8) : Option ProgressMatch :=
  if trimmed line = [] then none
  else progressRe (Data.fromUtf8 (trimmed line)).toList

/-! ## Updates -/

/-- The bytes of a unit. -/
def SizeUnit.bytes : SizeUnit → Nat
  | .b => 1
  | .kb => 1024
  | .mb => 1024 ^ 2
  | .gb => 1024 ^ 3
  | .tb => 1024 ^ 4

/-- The bytes of a size read as an exact decimal. -/
def exactBytes (size : ScpSize) : Int :=
  (size.digits * size.unit.bytes / 10 ^ size.places : Nat)

/-- Bytes transferred and in total after a line of progress. A total that is not known yet
is estimated from the percentage. -/
def progressUpdate (bytesOf : ScpSize → Int) (bytesTotal : Int) (progress : ProgressMatch) :
    Int × Int :=
  let transferred := bytesOf progress.size
  (transferred,
    if 0 < progress.percent ∧ bytesTotal = 0 ∧ 0 < transferred then
      transferred * 100 / progress.percent
    else bytesTotal)

/-- The loop of `parseScpProgress`: a carriage return is looked for before a line feed. The
state is the total. -/
def scpReader (bytesOf : ScpSize → Int) : LineReader UInt8 Int (Int × Int) where
  primary := 13
  secondary := 10
  emits bytesTotal line := (lineProgress line).toList.map (progressUpdate bytesOf bytesTotal)
  settle _ update := update.2

/-- A transfer as far as its progress goes: the total, `stderrBuffer` and the updates so far. -/
abbrev ScpReading := Reading UInt8 Int (Int × Int)

/-- `parseScpProgress`, on what a read returned. -/
def parseScpProgress (bytesOf : ScpSize → Int) (reading : ScpReading) (output : List UInt8) :
    ScpReading :=
  (scpReader bytesOf).feed reading output

/-- The successive reads of a process's error output. -/
def parseReads (bytesOf : ScpSize → Int) (reading : ScpReading) (reads : List (List UInt8)) :
    ScpReading :=
  reads.foldl (parseScpProgress bytesOf) reading

/-! ## Cuts of the output -/

/-- Any two ways of cutting the output give the same updates and the same rest exactly when,
wherever a stretch of lines is ended by a carriage return, reading it as one line gives the
same as reading its lines one by one. -/
theorem parseReads_cutsAgree_iff (bytesOf : ScpSize → Int) (bytesTotal : Int)
    (stream : List UInt8) :
    (∀ first second : List (List UInt8), first.flatten = stream → second.flatten = stream →
        (parseReads bytesOf (.start bytesTotal) first).emitted =
            (parseReads bytesOf (.start bytesTotal) second).emitted ∧
          (parseReads bytesOf (.start bytesTotal) first).buffer =
            (parseReads bytesOf (.start bytesTotal) second).buffer) ↔
      (scpReader bytesOf).Mergeable (.start bytesTotal) stream := by
  refine (scpReader bytesOf).cutsAgree_iff ?_ rfl stream
  intro total other line
  simp only [scpReader, List.length_map]

/-- Two lines of progress, ended by a line feed and a carriage return, give two updates when
they are read apart and one when they are read together. -/
theorem parseReads_depends_on_cuts :
    ¬ ∀ first second : List (List UInt8), first.flatten = second.flatten →
      (parseReads exactBytes (.start 0) first).emitted =
        (parseReads exactBytes (.start 0) second).emitted := by
  intro agree
  have together := agree
    [Data.toUtf8 "a.txt  45%   10KB   1.0KB/s   00:12\n",
      Data.toUtf8 "a.txt  90%   20KB   1.0KB/s   00:02\r"]
    [Data.toUtf8 "a.txt  45%   10KB   1.0KB/s   00:12\n" ++
      Data.toUtf8 "a.txt  90%   20KB   1.0KB/s   00:02\r"] (by simp)
  exact absurd (congrArg List.length together) (by decide +kernel)

/-- Where no carriage return follows a line feed, cuts do not matter. -/
theorem parseReads_eq_of_returns_first (bytesOf : ScpSize → Int) (bytesTotal : Int)
    {reads : List (List UInt8)}
    (returnsFirst : ∀ front after, reads.flatten = front ++ 13 :: after → (10 : UInt8) ∉ front) :
    parseReads bytesOf (.start bytesTotal) reads =
      (scpReader bytesOf).byLines (.start bytesTotal) reads.flatten := by
  have mergeable : (scpReader bytesOf).Mergeable (.start bytesTotal) (reads.flatten ++ []) := by
    rw [List.append_nil]
    exact LineReader.mergeable_of_primary_first rfl returnsFirst
  exact LineReader.feedAll_of_mergeable rfl reads [] mergeable

/-! ## The manager's part -/

/-- The handler of `readyReadStandardError`, with the transfer's reading. -/
def onReadyRead (bytesOf : ScpSize → Int) (id : Nat) (world : FileTransferManager × ScpReading)
    (output : List UInt8) : FileTransferManager × ScpReading :=
  let after := parseScpProgress bytesOf { world.2 with emitted := [] } output
  (world.1.onProcessEvent id (.readyReadStandardError after.emitted),
    { after with emitted := world.2.emitted ++ after.emitted })

/-- The manager has had the updates of all reads, in order. -/
theorem foldl_onReadyRead (bytesOf : ScpSize → Int) (id : Nat) (manager : FileTransferManager)
    (reading : ScpReading) (reads : List (List UInt8)) :
    ∃ updates, (parseReads bytesOf reading reads).emitted = reading.emitted ++ updates ∧
      reads.foldl (onReadyRead bytesOf id) (manager, reading) =
        (manager.onProcessEvent id (.readyReadStandardError updates),
          parseReads bytesOf reading reads) := by
  induction reads generalizing manager reading with
  | nil => exact ⟨[], (List.append_nil _).symm, rfl⟩
  | cons output rest inductionHypothesis =>
      let after := parseScpProgress bytesOf { reading with emitted := [] } output
      have read : parseScpProgress bytesOf reading output =
          { after with emitted := reading.emitted ++ after.emitted } :=
        LineReader.drain_emitted _ _ _
      obtain ⟨updates, emitted, handled⟩ := inductionHypothesis
        (manager.onProcessEvent id (.readyReadStandardError after.emitted))
        (parseScpProgress bytesOf reading output)
      refine ⟨after.emitted ++ updates, ?_, ?_⟩
      · change (parseReads bytesOf (parseScpProgress bytesOf reading output) rest).emitted = _
        rw [emitted, read, List.append_assoc]
      · have first : onReadyRead bytesOf id (manager, reading) output =
            (manager.onProcessEvent id (.readyReadStandardError after.emitted),
              parseScpProgress bytesOf reading output) := by
          rw [read]
          rfl
        rw [List.foldl_cons, first, handled]
        simp only [FileTransferManager.onProcessEvent, List.foldl_append]
        rfl

end CoderDesktop.FileSync
