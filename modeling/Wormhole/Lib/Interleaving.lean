/-
# Wormhole.Lib.Interleaving — machines that run next to each other.

A family of machines `step i`, one for each party `i`, with a state of its own.  `interleave step` is the machine in
which one party at a time takes a step, in any order; its log is the list of the events, each with its party.  What
a party has been given is the part of the log that is its own (`inputsOf`).

`Run.party`: each party, seen alone, has made a run of its own machine.  So what is known of every run of one machine
is known of each party (`Run.party`), and only what relates the parties needs an argument about the whole.
-/
import Mathlib
import Wormhole.Lib.Transition

namespace Wormhole.Lib.Interleaving

open Wormhole.Lib.Transition

variable {ι σ α : Type*} [DecidableEq ι] {step : ι → σ → α → Option σ}

/-- One party takes a step. -/
def interleave (step : ι → σ → α → Option σ) (s : ι → σ) (e : ι × α) : Option (ι → σ) :=
  (step e.1 (s e.1) e.2).map (Function.update s e.1)

/-- The interleaved machine next to the events so far. -/
abbrev recorded (step : ι → σ → α → Option σ) :
    (ι → σ) × List (ι × α) → ι × α → Option ((ι → σ) × List (ι × α)) :=
  logging (interleave step) fun _ e => [e]

/-- The machine of one party next to its inputs so far. -/
abbrev recordedAt (step : ι → σ → α → Option σ) (i : ι) : σ × List α → α → Option (σ × List α) :=
  logging (step i) fun _ a => [a]

/-- The inputs of one party, in order. -/
def inputsOf (i : ι) (log : List (ι × α)) : List α := log.filterMap fun e => if e.1 = i then some e.2 else none

theorem interleave_eq_some {s t : ι → σ} {e : ι × α} :
    interleave step s e = some t ↔ ∃ u, step e.1 (s e.1) e.2 = some u ∧ t = Function.update s e.1 u := by
  simp only [interleave, Option.map_eq_some_iff, eq_comm]

@[simp]
theorem inputsOf_nil (i : ι) : inputsOf i ([] : List (ι × α)) = [] := rfl

theorem inputsOf_concat_self (i : ι) (a : α) (log : List (ι × α)) :
    inputsOf i (log ++ [(i, a)]) = inputsOf i log ++ [a] := by
  simp [inputsOf]

theorem inputsOf_concat_of_ne {i j : ι} (h : j ≠ i) (a : α) (log : List (ι × α)) :
    inputsOf i (log ++ [(j, a)]) = inputsOf i log := by
  simp [inputsOf, h]

theorem mem_inputsOf {i : ι} {a : α} {log : List (ι × α)} : a ∈ inputsOf i log ↔ (i, a) ∈ log := by
  simp only [inputsOf, List.mem_filterMap, Option.ite_none_right_eq_some, Option.some.injEq, Prod.exists]
  constructor
  · rintro ⟨j, b, hmem, rfl, rfl⟩
    exact hmem
  · intro hmem
    exact ⟨i, a, hmem, rfl, rfl⟩

/-- The log of a list of events is the list. -/
theorem recorded_foldlM_log {s t : (ι → σ) × List (ι × α)} {es : List (ι × α)}
    (h : es.foldlM (recorded step) s = some t) : t.2 = s.2 ++ es := by
  induction es generalizing s with
  | nil =>
    rw [← Option.some.inj h, List.append_nil]
  | cons e es ih =>
    rw [List.foldlM_cons] at h
    obtain ⟨u, hstep, hrest⟩ := Option.bind_eq_some_iff.mp h
    rw [ih hrest, (logging_eq_some.mp hstep).2, List.append_assoc]
    rfl

section Projection

variable {ok : (ι → σ) × List (ι × α) → ι × α → Prop} {okAt : σ × List α → α → Prop} {i : ι}
  {s₀ s : ι → σ} {log : List (ι × α)}

/-- **A step of the whole**, seen by one party: its own step, or nothing. -/
theorem recorded_step {s t : (ι → σ) × List (ι × α)} {e : ι × α} (h : recorded step s e = some t) (i : ι) :
    (e.1 = i ∧ recordedAt step i (s.1 i, inputsOf i s.2) e.2 = some (t.1 i, inputsOf i t.2)) ∨
      (e.1 ≠ i ∧ t.1 i = s.1 i ∧ inputsOf i t.2 = inputsOf i s.2) := by
  obtain ⟨j, a⟩ := e
  obtain ⟨hstep, hlog⟩ := logging_eq_some.mp h
  obtain ⟨u, hu, ht⟩ := interleave_eq_some.mp hstep
  rw [hlog]
  by_cases hj : j = i
  · subst hj
    refine .inl ⟨rfl, logging_eq_some.mpr ⟨?_, inputsOf_concat_self j a s.2⟩⟩
    rw [ht, Function.update_self]
    exact hu
  · refine .inr ⟨hj, ?_, inputsOf_concat_of_ne hj a s.2⟩
    rw [ht, Function.update_of_ne (Ne.symm hj)]

/-- **Each party has made a run of its own.** -/
theorem Run.party (hok : ∀ s a, ok s (i, a) → okAt (s.1 i, inputsOf i s.2) a)
    (h : Run (recorded step) ok (s₀, []) (s, log)) :
    Run (recordedAt step i) okAt (s₀ i, []) (s i, inputsOf i log) := by
  refine h.invariant (I := fun s => Run (recordedAt step i) okAt (s₀ i, []) (s.1 i, inputsOf i s.2)) ?_ (Run.refl _)
  rintro s ⟨j, a⟩ t hs ha hstep
  rcases recorded_step hstep i with ⟨hj, hmove⟩ | ⟨-, hstate, hlog⟩
  · dsimp only at hj
    subst hj
    exact hs.snoc (hok s a ha) hmove
  · rw [hstate, hlog]
    exact hs

end Projection

end Wormhole.Lib.Interleaving
