/-
# Wormhole.Lib.Nested — calls inside calls, which may be undone.

A machine whose steps hand over to code that is not known: that code takes further steps before it returns, and if
it fails everything since is undone.  `Nested` keeps the state next to the states to go back to.  What every step of
the machine keeps holds after every run of calls, in the middle of them too, and of the states gone back to
(`Nested.invariant`).
-/
import Mathlib
import Wormhole.Lib.Transition

namespace Wormhole.Lib

open Transition

variable {σ α : Type*} {step : σ → α → Option σ}

/-- A state, and the states before the calls that have not returned yet, the last call first. -/
structure Nested (σ : Type*) where
  state : σ
  saved : List σ

inductive Nested.Event (α : Type*) where
  /-- a step -/
  | act (a : α)
  /-- a step that ends in a call of other code -/
  | call (a : α)
  /-- a call of other code -/
  | enter
  /-- the return of the last call, or its failure -/
  | leave (ok : Bool)

namespace Nested

variable {w w' : Nested σ}

def next (step : σ → α → Option σ) (w : Nested σ) : Event α → Option (Nested σ)
  | .act a => (step w.state a).map fun t => { w with state := t }
  | .call a => (step w.state a).map fun t => { state := t, saved := w.state :: w.saved }
  | .enter => some { w with saved := w.state :: w.saved }
  | .leave ok =>
    match w.saved with
    | [] => none
    | s :: saved => some { state := if ok then w.state else s, saved }

/-- A property of the state and of the states to go back to. -/
def All (I : σ → Prop) (w : Nested σ) : Prop := I w.state ∧ ∀ s ∈ w.saved, I s

theorem All.next {I : σ → Prop} (hkeeps : ∀ s a t, I s → step s a = some t → I t) {e : Event α}
    (h : All I w) (hstep : Nested.next step w e = some w') : All I w' := by
  obtain ⟨hstate, hsaved⟩ := h
  cases e with
  | act a =>
    obtain ⟨t, ht, rfl⟩ := Option.map_eq_some_iff.mp hstep
    exact ⟨hkeeps _ a t hstate ht, hsaved⟩
  | call a =>
    obtain ⟨t, ht, rfl⟩ := Option.map_eq_some_iff.mp hstep
    exact ⟨hkeeps _ a t hstate ht, List.forall_mem_cons.mpr ⟨hstate, hsaved⟩⟩
  | enter =>
    rw [← Option.some.inj hstep]
    exact ⟨hstate, List.forall_mem_cons.mpr ⟨hstate, hsaved⟩⟩
  | leave ok =>
    simp only [Nested.next] at hstep
    split at hstep
    · cases hstep
    · rename_i s saved heq
      rw [← Option.some.inj hstep]
      rw [heq] at hsaved
      obtain ⟨hs, hrest⟩ := List.forall_mem_cons.mp hsaved
      refine ⟨?_, hrest⟩
      cases ok with
      | true => exact hstate
      | false => exact hs

/-- **The invariant rule.** -/
theorem invariant {I : σ → Prop} (hkeeps : ∀ s a t, I s → step s a = some t → I t)
    (hrun : Run (Nested.next step) (fun _ _ => True) w w') (h : All I w) : All I w' :=
  hrun.invariant (fun _ _ _ hall _ hstep => All.next hkeeps hall hstep) h

end Nested

end Wormhole.Lib
