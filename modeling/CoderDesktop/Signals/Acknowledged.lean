import CoderDesktop.Semantics.Run

/-!
# Changes that are followed by a signal

A log of signals, some of which tell of a change, is acknowledged when after each of
these there is a later one of a given kind.
-/

namespace CoderDesktop.Signals

universe u

variable {Signal : Type u} (changes : Signal → Bool) (acknowledgement : Signal)

/-- Each change is followed by an acknowledgement. -/
def Acknowledged (log : List Signal) : Prop :=
  ∀ before signal after, log = before ++ signal :: after → changes signal = true →
    acknowledgement ∈ after

variable {changes acknowledgement} {log : List Signal}

/-- No signal, nothing to acknowledge. -/
theorem acknowledged_nil : Acknowledged changes acknowledgement [] := by
  intro before signal after split
  simp at split

/-- Signals that tell of no change need no further acknowledgement. -/
theorem Acknowledged.append (held : Acknowledged changes acknowledgement log)
    {quiet : List Signal} (silent : ∀ signal ∈ quiet, changes signal = false) :
    Acknowledged changes acknowledgement (log ++ quiet) := by
  intro before signal after split isChange
  rcases List.append_eq_append_iff.mp split with ⟨between, rfl, rest⟩ | ⟨between, rfl, rest⟩
  · have member : signal ∈ quiet := rest ▸ by simp
    exact absurd ((silent signal member).symm.trans isChange) nofun
  · cases between with
    | nil =>
        have member : signal ∈ quiet := (List.nil_append quiet ▸ rest) ▸ List.mem_cons_self
        exact absurd ((silent signal member).symm.trans isChange) nofun
    | cons head between =>
        obtain ⟨rfl, rfl⟩ := List.cons.inj rest
        exact List.mem_append_left _ (held before signal between rfl isChange)

/-- An acknowledgement covers all that came before. -/
theorem acknowledged_snoc (silent : changes acknowledgement = false) :
    Acknowledged changes acknowledgement (log ++ [acknowledgement]) := by
  intro before signal after split isChange
  rcases Semantics.snoc_eq_split.mp split with ⟨-, -, rfl⟩ | ⟨rest, rfl, -⟩
  · exact absurd (silent.symm.trans isChange) nofun
  · simp

end CoderDesktop.Signals
