/-
# Wormhole.Lib.Totals — the total of a mapping of amounts.

A mapping from keys to amounts that is 0 but for finitely many keys has a total.  `Total f n` says that
`n` is the total of `f`; what a write does to it is one equation (`Total.update`), from which paying in,
paying out and moving an amount between two keys follow.
-/
import Mathlib

namespace Wormhole.Lib

variable {κ : Type*} {f : κ → Nat} {m n : Nat}

/-- The amounts of `f` are 0 outside a finite set and add up to `n`. -/
def Total (f : κ → Nat) (n : Nat) : Prop :=
  ∃ keys : Finset κ, (∀ k, k ∉ keys → f k = 0) ∧ ∑ k ∈ keys, f k = n

namespace Total

theorem zero : Total (fun _ : κ => 0) 0 := ⟨∅, fun _ _ => rfl, rfl⟩

/-- No amount exceeds the total. -/
theorem le (h : Total f n) (k : κ) : f k ≤ n := by
  obtain ⟨keys, hzero, hsum⟩ := h
  by_cases hk : k ∈ keys
  · rw [← hsum]
    exact Finset.single_le_sum (fun _ _ => Nat.zero_le _) hk
  · rw [hzero k hk]
    exact Nat.zero_le n

variable [DecidableEq κ]

/-- More keys may be added to those that count. -/
theorem on_insert (h : Total f n) (k : κ) :
    ∃ keys : Finset κ, k ∈ keys ∧ (∀ i, i ∉ keys → f i = 0) ∧ ∑ i ∈ keys, f i = n := by
  obtain ⟨keys, hzero, hsum⟩ := h
  refine ⟨insert k keys, Finset.mem_insert_self .., ?_, ?_⟩
  · intro i hi
    exact hzero i fun hmem => hi (Finset.mem_insert_of_mem hmem)
  · rw [Finset.sum_insert_of_eq_zero_if_notMem (hzero k), hsum]

/-- **A write** replaces one amount of the total. -/
theorem update (h : Total f n) (k : κ) {b : Nat} (hm : m + f k = n + b) : Total (Function.update f k b) m := by
  obtain ⟨keys, hk, hzero, hsum⟩ := h.on_insert k
  refine ⟨keys, ?_, ?_⟩
  · intro i hi
    rw [Function.update_of_ne (ne_of_mem_of_not_mem hk hi).symm]
    exact hzero i hi
  · have hold : f k + ∑ i ∈ keys.erase k, f i = n := by rw [Finset.add_sum_erase keys f hk, hsum]
    have hrest : ∑ i ∈ keys \ {k}, f i = ∑ i ∈ keys.erase k, f i := by rw [Finset.sdiff_singleton_eq_erase]
    rw [Finset.sum_update_of_mem hk, hrest]
    omega

/-- Paying in. -/
theorem add (h : Total f n) (k : κ) (a : Nat) : Total (Function.update f k (f k + a)) (n + a) :=
  h.update k (by omega)

/-- Paying out. -/
theorem sub (h : Total f n) (k : κ) {a : Nat} (ha : a ≤ f k) : Total (Function.update f k (f k - a)) (n - a) := by
  have hle := h.le k
  exact h.update k (by omega)

/-- Moving an amount; the second key is read after the first one was written. -/
theorem move (h : Total f n) (k l : κ) {a : Nat} (ha : a ≤ f k) :
    Total (Function.update (Function.update f k (f k - a)) l
      (Function.update f k (f k - a) l + a)) n := by
  have hle := h.le k
  have hmoved := (h.sub k ha).add l a
  rwa [Nat.sub_add_cancel (ha.trans hle)] at hmoved

end Total

end Wormhole.Lib
