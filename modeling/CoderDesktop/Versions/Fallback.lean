import Mathlib.Order.Lattice

/-!
# Orders with a fallback

Two linear orders mixed into one relation. Items are compared by rank where both have one,
and by a key that all have otherwise. The relation is asymmetric, and transitive except
where an item without a rank stands between two that the orders disagree on.
-/

namespace CoderDesktop.Versions.Fallback

universe u v w

variable {Item : Type u} {Rank : Type v} {Key : Type w} [LinearOrder Rank] [LinearOrder Key]
  (rank : Item → Option Rank) (key : Item → Key)

/-- Ranks are compared where both have one, keys otherwise. -/
def Before (first second : Item) : Prop :=
  match rank first, rank second with
  | some low, some high => low < high
  | some _, none | none, some _ | none, none => key first < key second

/-- Two of the items have ranks. Their keys and their ranks are ordered differently, and the
third item has its key between theirs. -/
def Conflict (first second third : Item) : Prop :=
  match rank first, rank second, rank third with
  | some low, none, some high =>
      high ≤ low ∧ key first < key second ∧ key second < key third
  | some low, some high, none =>
      low < high ∧ key second < key third ∧ key third ≤ key first
  | none, some low, some high =>
      low < high ∧ key third ≤ key first ∧ key first < key second
  | some _, some _, some _ | some _, none, none | none, some _, none | none, none, some _
  | none, none, none => False

variable {rank key} {first second third : Item}

/-- The relation is irreflexive. -/
theorem not_before_self : ¬ Before rank key first first := by
  unfold Before
  cases rank first with
  | none => exact lt_irrefl _
  | some own => exact lt_irrefl _

/-- The relation is asymmetric. -/
theorem not_before_of_before (before : Before rank key first second) :
    ¬ Before rank key second first := by
  unfold Before at before ⊢
  cases firstRank : rank first with
  | none => cases secondRank : rank second <;> exact lt_asymm (by simpa [*] using before)
  | some low => cases secondRank : rank second <;> exact lt_asymm (by simpa [*] using before)

/-- The relation is transitive exactly where there is no conflict. -/
theorem trans_iff :
    (Before rank key first second → Before rank key second third →
        Before rank key first third) ↔
      ¬ Conflict rank key first second third := by
  unfold Before Conflict
  cases rank first with
  | none =>
      cases rank second with
      | none =>
          cases rank third with
          | none | some => exact iff_of_true lt_trans not_false
      | some low =>
          cases rank third with
          | none => exact iff_of_true lt_trans not_false
          | some high =>
              dsimp only
              constructor
              · rintro trans ⟨ranks, above, keys⟩
                exact absurd (trans keys ranks) (not_lt_of_ge above)
              · intro noConflict keys ranks
                by_contra notBefore
                exact noConflict ⟨ranks, le_of_not_gt notBefore, keys⟩
  | some own =>
      cases rank second with
      | none =>
          cases rank third with
          | none => exact iff_of_true lt_trans not_false
          | some high =>
              dsimp only
              constructor
              · rintro trans ⟨ranks, below, above⟩
                exact absurd (trans below above) (not_lt_of_ge ranks)
              · intro noConflict below above
                by_contra notBefore
                exact noConflict ⟨le_of_not_gt notBefore, below, above⟩
      | some middle =>
          cases rank third with
          | none =>
              dsimp only
              constructor
              · rintro trans ⟨ranks, above, keys⟩
                exact absurd (trans ranks above) (not_lt_of_ge keys)
              · intro noConflict ranks above
                by_contra notBefore
                exact noConflict ⟨ranks, above, le_of_not_gt notBefore⟩
          | some high => exact iff_of_true lt_trans not_false

end CoderDesktop.Versions.Fallback
