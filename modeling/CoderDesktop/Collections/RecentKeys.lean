import Mathlib.Data.List.Nodup
import Mathlib.Data.List.Pairwise

/-!
# Keys remembered for a while

A table notes keys with the time they were seen at and forgets those that have been in it
for a window of time. It is compared with the list of all the items whose keys were ever
noted: what the table knows is which of them are still within the window.
-/

namespace CoderDesktop.Collections

universe u v

/-- Keys with the time each was noted at; no key is in the table twice. -/
structure RecentKeys (Key : Type u) where
  entries : List (Key × Int)
  distinct : (entries.map Prod.fst).Nodup

namespace RecentKeys

variable {Key : Type u}

/-- Nothing was noted. -/
def empty : RecentKeys Key := ⟨[], List.nodup_nil⟩

/-- The loop over the entries: those whose window has passed are erased. -/
def unexpired (window now : Int) : List (Key × Int) → List (Key × Int)
  | [] => []
  | entry :: rest =>
      if window ≤ now - entry.2 then unexpired window now rest
      else entry :: unexpired window now rest

/-- Expiry only drops entries. -/
theorem unexpired_sublist (window now : Int) (entries : List (Key × Int)) :
    (unexpired window now entries).Sublist entries := by
  induction entries with
  | nil => exact .slnil
  | cons entry rest inductionHypothesis =>
      rw [unexpired]
      split
      · exact inductionHypothesis.cons entry
      · exact inductionHypothesis.cons_cons entry

/-- What stays is younger than the window. -/
theorem mem_unexpired {window now : Int} {entries : List (Key × Int)} {entry : Key × Int} :
    entry ∈ unexpired window now entries ↔ entry ∈ entries ∧ now - entry.2 < window := by
  induction entries with
  | nil => simp [unexpired]
  | cons head rest inductionHypothesis =>
      rw [unexpired, List.mem_cons]
      split
      · rename_i passed
        rw [inductionHypothesis]
        constructor
        · rintro ⟨member, within⟩
          exact ⟨.inr member, within⟩
        · rintro ⟨rfl | member, within⟩
          · omega
          · exact ⟨member, within⟩
      · rename_i fresh
        rw [List.mem_cons, inductionHypothesis]
        constructor
        · rintro (rfl | ⟨member, within⟩)
          · exact ⟨.inl rfl, by omega⟩
          · exact ⟨.inr member, within⟩
        · rintro ⟨rfl | member, within⟩
          · exact .inl rfl
          · exact .inr ⟨member, within⟩

/-- Forget the keys whose window has passed. -/
def expire (window now : Int) (recent : RecentKeys Key) : RecentKeys Key where
  entries := unexpired window now recent.entries
  distinct := ((unexpired_sublist window now recent.entries).map Prod.fst).nodup recent.distinct

variable [DecidableEq Key]

/-- The time a key was noted at. -/
def notedAt (key : Key) (recent : RecentKeys Key) : Option Int :=
  recent.entries.lookup key

/-- Note a key, in the place of what was noted of it before. -/
def note (key : Key) (now : Int) (recent : RecentKeys Key) : RecentKeys Key where
  entries := (key, now) :: recent.entries.filter fun entry => entry.1 ≠ key
  distinct := by
    rw [List.map_cons, List.nodup_cons]
    constructor
    · simp
    · exact (List.filter_sublist.map Prod.fst).nodup recent.distinct

/-- The time noted for a key is that of its entry. -/
theorem notedAt_eq_some {key : Key} {time : Int} {recent : RecentKeys Key} :
    recent.notedAt key = some time ↔ (key, time) ∈ recent.entries := by
  obtain ⟨entries, distinct⟩ := recent
  unfold notedAt
  dsimp only
  induction entries with
  | nil => simp
  | cons head rest inductionHypothesis =>
      obtain ⟨first, noted⟩ := head
      rw [List.map_cons, List.nodup_cons] at distinct
      by_cases here : key = first
      · subst here
        rw [List.lookup_cons_self, List.mem_cons, Option.some_inj]
        constructor
        · rintro rfl
          exact .inl rfl
        · rintro (same | member)
          · exact (congrArg Prod.snd same).symm
          · exact absurd (List.mem_map.mpr ⟨_, member, rfl⟩) distinct.1
      · rw [List.lookup_cons, beq_false_of_ne here, inductionHypothesis distinct.2,
          List.mem_cons, Prod.mk.injEq]
        simp [here]

/-- Noting a key replaces its entry. -/
theorem mem_note {key : Key} {now : Int} {recent : RecentKeys Key} {entry : Key × Int} :
    entry ∈ (recent.note key now).entries ↔
      entry = (key, now) ∨ entry ∈ recent.entries ∧ entry.1 ≠ key := by
  simp [note]

end RecentKeys

/-! ## What a table remembers -/

section Memory

variable {Item : Type u} {Key : Type v} (keyOf : Item → Key) (timeOf : Item → Int)

/-- Items of one key, of which not both are within the window. -/
def Superseded (window clock : Int) (left right : Item) : Prop :=
  keyOf left = keyOf right → window ≤ clock - timeOf left ∨ window ≤ clock - timeOf right

instance (window clock : Int) : Std.Symm (Superseded keyOf timeOf window clock) where
  symm _ _ superseded same := (superseded same.symm).symm

/-- The table holds the keys of noted items, and of all that are within the window. -/
structure Remembers (window clock : Int) (recent : RecentKeys Key) (noted : List Item) :
    Prop where
  sound : ∀ entry ∈ recent.entries, ∃ item ∈ noted, (keyOf item, timeOf item) = entry
  complete : ∀ item ∈ noted, clock - timeOf item < window →
    (keyOf item, timeOf item) ∈ recent.entries
  past : ∀ item ∈ noted, timeOf item ≤ clock
  superseded : noted.Pairwise (Superseded keyOf timeOf window clock)

variable {keyOf timeOf} {window clock later : Int} {recent : RecentKeys Key} {noted : List Item}

/-- Nothing is remembered of no calls. -/
theorem Remembers.empty : Remembers keyOf timeOf window clock RecentKeys.empty [] where
  sound _ member := absurd member List.not_mem_nil
  complete _ member := absurd member List.not_mem_nil
  past _ member := absurd member List.not_mem_nil
  superseded := .nil

/-- Items of one key that are both within the window are the same. -/
theorem Remembers.unique (remembers : Remembers keyOf timeOf window clock recent noted)
    {left right : Item} (inLeft : left ∈ noted) (inRight : right ∈ noted)
    (same : keyOf left = keyOf right) (leftWithin : clock - timeOf left < window)
    (rightWithin : clock - timeOf right < window) : left = right := by
  by_contra different
  rcases remembers.superseded.forall inLeft inRight different same with passed | passed
  · omega
  · omega

/-- Some time later the table still remembers what is within the window, and it does so
after it has forgotten the rest. -/
theorem Remembers.expire (remembers : Remembers keyOf timeOf window clock recent noted)
    (advances : clock ≤ later) :
    Remembers keyOf timeOf window later (recent.expire window later) noted where
  sound entry member := remembers.sound entry (RecentKeys.mem_unexpired.mp member).1
  complete item member within := by
    apply RecentKeys.mem_unexpired.mpr
    exact ⟨remembers.complete item member (by omega), within⟩
  past item member := by
    have earlier := remembers.past item member
    omega
  superseded := by
    apply remembers.superseded.imp
    intro left right superseded same
    rcases superseded same with passed | passed
    · exact .inl (by omega)
    · exact .inr (by omega)

variable [DecidableEq Key]

/-- The keys that are left are those of the items within the window. -/
theorem Remembers.notedAt_expire (remembers : Remembers keyOf timeOf window clock recent noted)
    (advances : clock ≤ later) (key : Key) (time : Int) :
    (recent.expire window later).notedAt key = some time ↔
      ∃ item ∈ noted, keyOf item = key ∧ timeOf item = time ∧ later - time < window := by
  rw [RecentKeys.notedAt_eq_some]
  constructor
  · intro member
    obtain ⟨stays, within⟩ := RecentKeys.mem_unexpired.mp member
    obtain ⟨item, inNoted, same⟩ := remembers.sound _ stays
    obtain ⟨sameKey, sameTime⟩ := Prod.mk.inj same
    exact ⟨item, inNoted, sameKey, sameTime, within⟩
  · rintro ⟨item, inNoted, rfl, rfl, within⟩
    exact (remembers.expire advances).complete item inNoted within

/-- Noting an item when none of its key is within the window. -/
theorem Remembers.note (remembers : Remembers keyOf timeOf window clock recent noted)
    (item : Item) (new : ∀ former ∈ noted, keyOf former = keyOf item →
      window ≤ clock - timeOf former)
    (seen : timeOf item ≤ clock) :
    Remembers keyOf timeOf window clock (recent.note (keyOf item) (timeOf item))
      (item :: noted) where
  sound entry member := by
    rcases RecentKeys.mem_note.mp member with rfl | ⟨stays, -⟩
    · exact ⟨item, List.mem_cons_self, rfl⟩
    · obtain ⟨former, inNoted, same⟩ := remembers.sound entry stays
      exact ⟨former, List.mem_cons_of_mem _ inNoted, same⟩
  complete other member within := by
    apply RecentKeys.mem_note.mpr
    rcases List.mem_cons.mp member with rfl | inNoted
    · exact .inl rfl
    · refine .inr ⟨remembers.complete other inNoted within, fun same => ?_⟩
      have passed := new other inNoted same
      omega
  past other member := by
    rcases List.mem_cons.mp member with rfl | inNoted
    · exact seen
    · exact remembers.past other inNoted
  superseded := by
    apply List.Pairwise.cons
    · intro former inNoted same
      exact .inr (new former inNoted same.symm)
    · exact remembers.superseded

end Memory

end CoderDesktop.Collections
