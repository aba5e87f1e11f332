/-
# Wormhole.Lib.Fibers — how many keys a mapping sends to a value.

`Counts f b n` says that exactly `n` keys are sent to `b`.  A write at one key takes it from the fiber of its old
value and adds it to that of the new one.
-/
import Mathlib

namespace Wormhole.Lib

variable {α β : Type*} {f : α → β} {b c : β} {n : Nat} {k : α}

/-- Exactly `n` keys are sent to `b`. -/
def Counts (f : α → β) (b : β) (n : Nat) : Prop := ∃ keys : Finset α, (∀ k, k ∈ keys ↔ f k = b) ∧ keys.card = n

namespace Counts

theorem none (h : ∀ k, f k ≠ b) : Counts f b 0 := by
  refine ⟨∅, ?_, Finset.card_empty⟩
  intro k
  exact iff_of_false (Finset.notMem_empty k) (h k)

theorem pos (h : Counts f b n) (hk : f k = b) : 0 < n := by
  obtain ⟨keys, hmem, rfl⟩ := h
  exact Finset.card_pos.mpr ⟨k, (hmem k).mpr hk⟩

variable [DecidableEq α]

/-- Another key for the value. -/
theorem insert (h : Counts f b n) (hk : f k ≠ b) : Counts (Function.update f k b) b (n + 1) := by
  obtain ⟨keys, hmem, rfl⟩ := h
  refine ⟨Insert.insert k keys, ?_, Finset.card_insert_of_notMem fun hin => hk ((hmem k).mp hin)⟩
  intro i
  rw [Finset.mem_insert, hmem]
  by_cases hi : i = k
  · subst hi
    rw [Function.update_self]
    exact iff_of_true (.inl rfl) rfl
  · rw [Function.update_of_ne hi, or_iff_right hi]

/-- A key less for the value. -/
theorem erase (h : Counts f b n) (hk : f k = b) (hc : c ≠ b) : Counts (Function.update f k c) b (n - 1) := by
  obtain ⟨keys, hmem, rfl⟩ := h
  refine ⟨keys.erase k, ?_, Finset.card_erase_of_mem ((hmem k).mpr hk)⟩
  intro i
  rw [Finset.mem_erase, hmem]
  by_cases hi : i = k
  · subst hi
    rw [Function.update_self]
    exact iff_of_false (fun h => h.1 rfl) hc
  · rw [Function.update_of_ne hi, and_iff_right hi]

/-- The other values. -/
theorem update_of_ne (h : Counts f b n) (hk : f k ≠ b) (hc : c ≠ b) : Counts (Function.update f k c) b n := by
  obtain ⟨keys, hmem, rfl⟩ := h
  refine ⟨keys, ?_, rfl⟩
  intro i
  rw [hmem]
  by_cases hi : i = k
  · subst hi
    rw [Function.update_self]
    exact iff_of_false hk hc
  · rw [Function.update_of_ne hi]

/-- Counters of all values: what changes to another value is one less of the old one. -/
theorem leave {count : β → Nat} [DecidableEq β] (h : Counts f b (count b)) (hc : c ≠ b) :
    Counts (Function.update f k c) b (Function.update count (f k) (count (f k) - 1) b) := by
  by_cases hk : f k = b
  · rw [hk, Function.update_self]
    exact h.erase hk hc
  · rw [Function.update_of_ne (Ne.symm hk)]
    exact h.update_of_ne hk hc

end Counts

end Wormhole.Lib
