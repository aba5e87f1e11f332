/-
# Wormhole.Lib.Loop — counted loops that may abort.

`loop n body` runs `body 0`, …, `body (n - 1)` over a state and stops at the first abort.  Two rules
reason about it: `loop_partial` carries an indexed invariant through a loop that is known to have
finished, and `loop_total` shows that a loop finishes when its body never aborts under the invariant.
`loop_eq_foldlM` reads the loop as a fold over the counters, and `foldlM_flatMap` merges nested folds.
-/
import Mathlib

namespace Wormhole.Lib.Loop

variable {σ : Type*} {n : Nat} {body : Fin n → σ → Option σ}

/-- Run `body` at every counter below `n`, in order; an abort ends the loop. -/
def loop (n : Nat) (body : Fin n → σ → Option σ) (s : σ) : Option σ :=
  (List.finRange n).foldlM (fun s i => body i s) s

/-- A loop whose rounds depend on the value of the counter only is a fold over `0, …, n - 1`. -/
theorem loop_eq_foldlM {f : σ → Nat → Option σ} (h : ∀ (i : Fin n) s, body i s = f s i) (s : σ) :
    loop n body s = (List.range n).foldlM f s := by
  rw [← List.map_coe_finRange_eq_range, List.foldlM_map, loop]
  congr 1
  funext s i
  exact h i s

@[simp]
theorem loop_zero (body : Fin 0 → σ → Option σ) (s : σ) : loop 0 body s = some s := by
  simp [loop]

/-- A loop of one more round is the shorter loop followed by the last round. -/
theorem loop_succ (body : Fin (n + 1) → σ → Option σ) (s : σ) :
    loop (n + 1) body s = (loop n (fun i => body i.castSucc) s).bind (body (Fin.last n)) := by
  simp only [loop, List.finRange_succ_last, List.foldlM_append, List.foldlM_map]
  simp [Option.bind_eq_bind]

/-- Folding over the concatenation of blocks folds over each block in turn. -/
theorem foldlM_flatMap {α β : Type*} (f : σ → β → Option σ) (g : α → List β) (l : List α) (s : σ) :
    (l.flatMap g).foldlM f s = l.foldlM (fun s a => (g a).foldlM f s) s := by
  induction l generalizing s with
  | nil => rfl
  | cons a l ih =>
    simp only [List.flatMap_cons, List.foldlM_append, List.foldlM_cons]
    exact congrArg _ (funext ih)

/-- **Partial correctness.** An invariant kept by every round holds after a finished loop. -/
theorem loop_partial (I : Nat → σ → Prop) {s t : σ} (h : loop n body s = some t) (h0 : I 0 s)
    (hstep : ∀ (i : Fin n) s s', I i s → body i s = some s' → I (i + 1) s') : I n t := by
  induction n generalizing t with
  | zero =>
    simp only [loop_zero, Option.some.injEq] at h
    exact h ▸ h0
  | succ n ih =>
    rw [loop_succ, Option.bind_eq_some_iff] at h
    obtain ⟨u, hu, hlast⟩ := h
    have hI : I n u := ih hu fun i s s' hs hb => hstep i.castSucc s s' hs hb
    exact hstep (Fin.last n) u t hI hlast

/-- **Total correctness.** A loop whose rounds succeed under the invariant finishes. -/
theorem loop_total (I : Nat → σ → Prop) {s : σ} (h0 : I 0 s)
    (hstep : ∀ (i : Fin n) s, I i s → ∃ s', body i s = some s' ∧ I (i + 1) s') :
    ∃ t, loop n body s = some t ∧ I n t := by
  induction n with
  | zero => exact ⟨s, loop_zero body s, h0⟩
  | succ n ih =>
    obtain ⟨u, hu, hI⟩ : ∃ u, loop n (fun i => body i.castSucc) s = some u ∧ I n u :=
      ih fun i s hs => hstep i.castSucc s hs
    obtain ⟨t, ht, hIt⟩ := hstep (Fin.last n) u hI
    refine ⟨t, ?_, hIt⟩
    rw [loop_succ, hu, Option.bind_some, ht]

end Wormhole.Lib.Loop
