/-
# Wormhole.Lib.Registry — names for instances that are created on demand.

A factory creates instances and enters each under a key.  `entry k` is the address under the key `k`, or
`unset`; `inst a` is the instance at the address `a`; an instance `b` knows its own key, `key b`.
`Consistent` says that the entries and the instances agree.  Creating an instance at a free address under
an unset key keeps that, and so does every change of an instance that leaves its key alone.  From it, no
two keys share an address.
-/
import Mathlib

namespace Wormhole.Lib.Registry

variable {κ α β : Type*} {unset : α} {entry : κ → α} {inst : α → Option β} {key : β → κ}

/-- Every entry names an instance with its key, and every instance is the entry of its key. -/
structure Consistent (unset : α) (entry : κ → α) (inst : α → Option β) (key : β → κ) : Prop where
  named : ∀ k, entry k ≠ unset → ∃ b, inst (entry k) = some b ∧ key b = k
  known : ∀ a b, inst a = some b → a ≠ unset ∧ entry (key b) = a

namespace Consistent

/-- No entry, no instance. -/
theorem of_empty (hentry : ∀ k, entry k = unset) (hinst : ∀ a, inst a = none) :
    Consistent unset entry inst key where
  named := fun k hk => absurd (hentry k) hk
  known := by
    intro a b hb
    rw [hinst a] at hb
    cases hb

/-- **No two keys share an address.** -/
theorem injective (h : Consistent unset entry inst key) {k k' : κ} (hk : entry k ≠ unset)
    (heq : entry k = entry k') : k = k' := by
  obtain ⟨b, hb, hkey⟩ := h.named k hk
  obtain ⟨b', hb', hkey'⟩ := h.named k' (heq ▸ hk)
  rw [← heq, hb] at hb'
  rw [← hkey, ← hkey', Option.some.inj hb']

variable [DecidableEq α]

/-- An instance changes and keeps its key. -/
theorem write (h : Consistent unset entry inst key) {a : α} {b b' : β} (hb : inst a = some b)
    (hkey : key b' = key b) : Consistent unset entry (Function.update inst a (some b')) key where
  named := by
    intro k hk
    by_cases ha : entry k = a
    · obtain ⟨c, hc, hck⟩ := h.named k hk
      rw [ha, hb] at hc
      refine ⟨b', ?_, ?_⟩
      · rw [ha, Function.update_self]
      · rw [hkey, Option.some.inj hc, hck]
    · rw [Function.update_of_ne ha]
      exact h.named k hk
  known := by
    intro a' c hc
    by_cases ha : a' = a
    · subst ha
      rw [Function.update_self] at hc
      rw [← Option.some.inj hc, hkey]
      exact h.known a' b hb
    · rw [Function.update_of_ne ha] at hc
      exact h.known a' c hc

/-- **A new instance**, at a free address under an unset key. -/
theorem create [DecidableEq κ] (h : Consistent unset entry inst key) {a : α} {b : β}
    (hunset : entry (key b) = unset) (hfree : inst a = none) (ha : a ≠ unset) :
    Consistent unset (Function.update entry (key b) a) (Function.update inst a (some b)) key where
  named := by
    intro k hk
    by_cases hkey : k = key b
    · subst hkey
      refine ⟨b, ?_, rfl⟩
      rw [Function.update_self, Function.update_self]
    · rw [Function.update_of_ne hkey] at hk ⊢
      obtain ⟨c, hc, hck⟩ := h.named k hk
      refine ⟨c, ?_, hck⟩
      rw [Function.update_of_ne, hc]
      -- the address of an entry is not free
      intro heq
      rw [heq, hfree] at hc
      cases hc
  known := by
    intro a' c hc
    by_cases haddr : a' = a
    · subst haddr
      rw [Function.update_self] at hc
      rw [← Option.some.inj hc, Function.update_self]
      exact ⟨ha, rfl⟩
    · rw [Function.update_of_ne haddr] at hc
      obtain ⟨hne, hentry⟩ := h.known a' c hc
      refine ⟨hne, ?_⟩
      rw [Function.update_of_ne, hentry]
      -- the key of an older instance is set
      intro heq
      rw [heq, hunset] at hentry
      exact hne hentry.symm

end Consistent

/-- Writing a mapping of mappings, seen as a mapping from pairs. -/
theorem update_pair {κ' : Type*} [DecidableEq κ] [DecidableEq κ'] (f : κ → κ' → α) (k : κ) (k' : κ') (a : α) :
    (fun p : κ × κ' => Function.update f k (Function.update (f k) k' a) p.1 p.2) =
      Function.update (fun p : κ × κ' => f p.1 p.2) (k, k') a := by
  funext ⟨i, j⟩
  by_cases hi : i = k
  · subst hi
    show Function.update f i (Function.update (f i) k' a) i j = _
    rw [Function.update_self]
    by_cases hj : j = k'
    · subst hj
      rw [Function.update_self, Function.update_self]
    · have hne : (i, j) ≠ (i, k') := fun heq => hj (congrArg Prod.snd heq)
      rw [Function.update_of_ne hj, Function.update_of_ne hne]
  · have hne : (i, j) ≠ (k, k') := fun heq => hi (congrArg Prod.fst heq)
    show Function.update f k (Function.update (f k) k' a) i j = _
    rw [Function.update_of_ne hi, Function.update_of_ne hne]

end Wormhole.Lib.Registry
