import CoderDesktop.FileSync.ScpProgress
import CoderDesktop.Semantics.Run
import Mathlib.Algebra.Order.Field.Basic
import Mathlib.Algebra.Order.Ring.Cast
import Mathlib.Data.Rat.Cast.Order

/-!
# The range of a transfer's progress

A transfer as lines of progress are accepted for it. The total is the size of the local
file, an estimate from the first line, or unknown; nothing keeps what later lines give,
rounded otherwise, below it. `Metered` also records whether the computations of
`parseScpProgress` have stayed within `qint64`.
-/

namespace CoderDesktop.FileSync

open Semantics

/-- `progress()`, before it is rounded to a `double`. -/
def FileTransfer.progress (transfer : FileTransfer) : ℚ :=
  if 0 < transfer.bytesTotal then transfer.bytesTransferred / transfer.bytesTotal else 0

/-- A line of the error output is handled. -/
def FileTransfer.acceptLine (transfer : FileTransfer) (line : List UInt8) : FileTransfer :=
  ((scpReader exactBytes).emits transfer.bytesTotal line).foldl (fun transfer update =>
    { transfer with bytesTransferred := update.1, bytesTotal := update.2 }) transfer

/-- The value is one of `qint64`. -/
def fitsInt64 (value : Int) : Bool :=
  -2 ^ 63 ≤ value ∧ value < 2 ^ 63

/-- A line makes an estimate of a total that is not known. -/
def Estimates (bytesTotal : Int) (progress : ProgressMatch) : Prop :=
  0 < progress.percent ∧ bytesTotal = 0 ∧ 0 < exactBytes progress.size

instance (bytesTotal : Int) (progress : ProgressMatch) :
    Decidable (Estimates bytesTotal progress) :=
  inferInstanceAs (Decidable (_ ∧ _))

/-- The conversion to bytes and, where it is made, the estimate fit. -/
def computesInRange (bytesTotal : Int) (progress : ProgressMatch) : Bool :=
  fitsInt64 (exactBytes progress.size) &&
    (!decide (Estimates bytesTotal progress) || fitsInt64 (exactBytes progress.size * 100))

/-- A transfer, and whether every computation has stayed in range. -/
structure Metered where
  transfer : FileTransfer
  inRange : Bool

namespace Metered

/-- A transfer that was just made; the total is 0 where no file size is known. -/
def start (transfer : FileTransfer) (fileSize : Nat) : Metered :=
  ⟨{ transfer with bytesTransferred := 0, bytesTotal := fileSize }, true⟩

/-- A line is read, and the flag tells whether every progress so far was in range. -/
def next (world : Metered) (line : List UInt8) : Option Metered :=
  some
    { transfer := world.transfer.acceptLine line
      inRange :=
        world.inRange && (lineProgress line).all (computesInRange world.transfer.bytesTotal) }

/-- Nothing has left its range. -/
structure InRange (world : Metered) : Prop where
  computations : world.inRange = true
  transferred : 0 ≤ world.transfer.bytesTransferred
  total : 0 ≤ world.transfer.bytesTotal
  progress : 0 ≤ world.transfer.progress ∧ world.transfer.progress ≤ 1

/-- A line of progress fits the total there is: the size is one of `qint64`, an estimate of
at most 100 percent is made with room for the product, and no more is transferred than the
total says. An estimate that comes out as 0 leaves the total unknown. -/
def Fits (world : Metered) (line : List UInt8) : Prop :=
  ∀ progress ∈ lineProgress line,
    exactBytes progress.size < 2 ^ 63 ∧
      if world.transfer.bytesTotal = 0 then
        Estimates 0 progress → exactBytes progress.size * 100 < 2 ^ 63 ∧
          (progress.percent ≤ 100 ∨ exactBytes progress.size * 100 < progress.percent)
      else exactBytes progress.size ≤ world.transfer.bytesTotal

end Metered

/-! ## One line -/

/-- No size is negative. -/
theorem exactBytes_nonneg (size : ScpSize) : 0 ≤ exactBytes size :=
  Int.natCast_nonneg _

/-- A size fits exactly when it is below 2^63. -/
theorem fitsInt64_iff {value : Int} (nonneg : 0 ≤ value) :
    fitsInt64 value = true ↔ value < 2 ^ 63 := by
  unfold fitsInt64
  rw [decide_eq_true_iff]
  omega

/-- A line without progress changes nothing. -/
theorem acceptLine_of_none {transfer : FileTransfer} {line : List UInt8}
    (noProgress : lineProgress line = none) : transfer.acceptLine line = transfer := by
  simp [FileTransfer.acceptLine, scpReader, noProgress]

/-- A line of progress sets the bytes and may set the total. -/
theorem acceptLine_of_some {transfer : FileTransfer} {line : List UInt8}
    {progress : ProgressMatch} (found : lineProgress line = some progress) :
    transfer.acceptLine line =
      { transfer with
        bytesTransferred := exactBytes progress.size
        bytesTotal := (progressUpdate exactBytes transfer.bytesTotal progress).2 } := by
  simp [FileTransfer.acceptLine, scpReader, found, progressUpdate]

/-- Progress is within bounds when the total is unknown or not exceeded. -/
theorem progress_inRange_iff {transfer : FileTransfer}
    (transferred : 0 ≤ transfer.bytesTransferred) (total : 0 ≤ transfer.bytesTotal) :
    0 ≤ transfer.progress ∧ transfer.progress ≤ 1 ↔
      transfer.bytesTotal = 0 ∨ transfer.bytesTransferred ≤ transfer.bytesTotal := by
  unfold FileTransfer.progress
  by_cases known : 0 < transfer.bytesTotal
  · have positive : (0 : ℚ) < transfer.bytesTotal := by exact_mod_cast known
    rw [if_pos known, div_le_one positive, Int.cast_le]
    constructor
    · exact fun bounds => .inr bounds.2
    · rintro (unknown | within)
      · omega
      · exact ⟨div_nonneg (by exact_mod_cast transferred) positive.le, within⟩
  · rw [if_neg known]
    constructor
    · exact fun _ => .inl (by omega)
    · exact fun _ => ⟨le_refl 0, zero_le_one⟩

/-- An estimate comes out as 0, or at least as what is transferred, exactly when it is of at
most 100 percent or of less than one byte. -/
theorem estimate_inRange_iff {transferred : Int} {percent : Nat} (moving : 0 < transferred)
    (positive : 0 < percent) :
    (transferred * 100 / percent = 0 ∨ transferred ≤ transferred * 100 / percent) ↔
      percent ≤ 100 ∨ transferred * 100 < percent := by
  have divisor : (0 : Int) < percent := by exact_mod_cast positive
  have nonneg : 0 ≤ transferred * 100 / percent := Int.ediv_nonneg (by omega) divisor.le
  have oneByte : 1 ≤ transferred * 100 / percent ↔ (percent : Int) ≤ transferred * 100 := by
    rw [Int.le_ediv_iff_mul_le divisor, Int.one_mul]
  have notLess : transferred ≤ transferred * 100 / percent ↔ (percent : Int) ≤ 100 := by
    rw [Int.le_ediv_iff_mul_le divisor]
    exact Int.mul_le_mul_left moving
  rw [notLess]
  omega

/-- The total after a line. -/
theorem progressUpdate_total (bytesTotal : Int) (progress : ProgressMatch) :
    (progressUpdate exactBytes bytesTotal progress).2 =
      if Estimates bytesTotal progress then exactBytes progress.size * 100 / progress.percent
      else bytesTotal := rfl

/-- The computation stays in range exactly when its intermediate values do. -/
theorem computesInRange_iff (bytesTotal : Int) (progress : ProgressMatch) :
    computesInRange bytesTotal progress = true ↔
      exactBytes progress.size < 2 ^ 63 ∧
        (Estimates bytesTotal progress → exactBytes progress.size * 100 < 2 ^ 63) := by
  have nonneg := exactBytes_nonneg progress.size
  unfold computesInRange
  rw [Bool.and_eq_true, fitsInt64_iff nonneg, Bool.or_eq_true, fitsInt64_iff (by omega),
    Bool.not_eq_true', decide_eq_false_iff_not, imp_iff_not_or]

namespace Metered

variable {world after : Metered} {line : List UInt8}

/-- What a line of progress must not break: its computations, and the new total. -/
theorem InRange.next_some_iff (inRange : world.InRange) {progress : ProgressMatch}
    (found : lineProgress line = some progress) (taken : world.next line = some after) :
    after.InRange ↔
      computesInRange world.transfer.bytesTotal progress = true ∧
        ((progressUpdate exactBytes world.transfer.bytesTotal progress).2 = 0 ∨
          exactBytes progress.size ≤
            (progressUpdate exactBytes world.transfer.bytesTotal progress).2) := by
  obtain rfl := Option.some.inj taken
  have accepted := @acceptLine_of_some world.transfer line progress found
  have transferred := exactBytes_nonneg progress.size
  have total : 0 ≤ (progressUpdate exactBytes world.transfer.bytesTotal progress).2 := by
    rw [progressUpdate_total]
    split
    · exact Int.ediv_nonneg (by omega) (Int.natCast_nonneg _)
    · exact inRange.total
  have computations : (world.inRange &&
      (lineProgress line).all (computesInRange world.transfer.bytesTotal)) =
        computesInRange world.transfer.bytesTotal progress := by
    rw [inRange.computations, found, Bool.true_and, Option.all_some]
  constructor
  · intro kept
    have bounds := kept.progress
    rw [accepted] at bounds
    exact ⟨computations.symm.trans kept.computations,
      (progress_inRange_iff transferred total).mp bounds⟩
  · rintro ⟨computed, within⟩
    refine ⟨computations.trans computed, ?_, ?_, ?_⟩
    all_goals rw [accepted]
    · exact transferred
    · exact total
    · exact (progress_inRange_iff transferred total).mpr within

/-- From values in range, a line keeps them there exactly when it fits. -/
theorem InRange.next_iff (inRange : world.InRange) (taken : world.next line = some after) :
    after.InRange ↔ world.Fits line := by
  cases found : lineProgress line with
  | none =>
      have fits : world.Fits line := by
        intro progress isProgress
        rw [found] at isProgress
        cases isProgress
      have same : after = world := by
        obtain rfl := Option.some.inj taken
        have accepted : world.transfer.acceptLine line = world.transfer :=
          acceptLine_of_none found
        rw [accepted, found, Option.all_none, Bool.and_true]
      rw [same]
      exact ⟨fun _ => fits, fun _ => inRange⟩
  | some progress =>
      rw [inRange.next_some_iff found taken, computesInRange_iff, progressUpdate_total]
      unfold Fits
      rw [found]
      simp only [Option.mem_some_iff, forall_eq']
      by_cases known : world.transfer.bytesTotal = 0
      · rw [known, if_pos rfl]
        by_cases estimates : Estimates 0 progress
        · rw [if_pos estimates, estimate_inRange_iff estimates.2.2 estimates.1]
          constructor
          · exact fun ⟨⟨fits, product⟩, within⟩ => ⟨fits, fun made => ⟨product made, within⟩⟩
          · exact fun ⟨fits, made⟩ =>
              ⟨⟨fits, fun again => (made again).1⟩, (made estimates).2⟩
        · rw [if_neg estimates]
          constructor
          · exact fun ⟨⟨fits, _⟩, _⟩ => ⟨fits, fun made => absurd made estimates⟩
          · exact fun ⟨fits, _⟩ => ⟨⟨fits, fun made => absurd made estimates⟩, .inl rfl⟩
      · have noEstimate : ¬ Estimates world.transfer.bytesTotal progress :=
          fun estimates => known estimates.2.1
        rw [if_neg known, if_neg noEstimate]
        constructor
        · exact fun ⟨⟨fits, _⟩, within⟩ => ⟨fits, within.resolve_left known⟩
        · exact fun ⟨fits, within⟩ => ⟨⟨fits, fun made => absurd made noEstimate⟩, .inr within⟩

/-- Through any sequence of lines, everything stays in range exactly when every line of
progress fits the total there is when it comes. -/
theorem inRange_iff_fits (transfer : FileTransfer) (fileSize : Nat)
    (lines : List (List UInt8)) :
    (∀ world, Visits next (start transfer fileSize) lines world → world.InRange) ↔
      Conforms next Fits (start transfer fileSize) lines := by
  refine visits_iff_conforms (fun _ => True) InRange (fun _ _ _ _ _ => trivial)
    (fun _ _ _ _ inRange taken => inRange.next_iff taken) trivial ?_ lines
  have total : (0 : Int) ≤ (start transfer fileSize).transfer.bytesTotal :=
    Int.natCast_nonneg fileSize
  exact ⟨rfl, le_refl 0, total, (progress_inRange_iff (le_refl 0) total).mpr (.inr total)⟩

/-- A file of 10200 bytes of which scp says, rounded, that 10KB have been transferred. -/
theorem rounded_size_exceeds_total :
    ¬ ∀ world, Visits next
        (start ⟨1, "dev.coder", "/tmp/a.txt", "/home/coder/a.txt", true, 0, 0, .running, ""⟩ 10200)
        [Data.toUtf8 "a.txt 100%   10KB   1.0MB/s   00:00"] world → world.InRange := by
  refine not_visits_of_replay (fun world =>
    world.transfer.bytesTransferred = 10240 ∧ world.transfer.bytesTotal = 10200)
    (by decide +kernel) ?_
  intro world reached inRange
  obtain ⟨transferred, total⟩ := of_decide_eq_true reached
  have within := (progress_inRange_iff inRange.transferred inRange.total).mp inRange.progress
  omega

end Metered

end CoderDesktop.FileSync
