/-
# Wormhole.Lib.ReadThrough — caches that are asked before the store.

`fetch k` is what the store holds behind the key `k`, `cache k` what has been fetched before.  A lookup
answers from the cache, and fills it from the store when there is nothing in it.  Such lookups answer what
the store does as long as the cache is `Coherent`; a write of the store leaves it so exactly when it changes
nothing that is cached (`Coherent.write_iff`).
-/
import Mathlib

namespace Wormhole.Lib.ReadThrough

variable {κ β : Type*} {fetch fetch' cache : κ → Option β} {k : κ}

/-- The answer of a lookup. -/
def answer (fetch cache : κ → Option β) (k : κ) : Option β :=
  match cache k with
  | some b => some b
  | none => fetch k

/-- What is cached is what the store holds. -/
def Coherent (fetch cache : κ → Option β) : Prop := ∀ k b, cache k = some b → fetch k = some b

theorem answer_of_none (h : cache k = none) : answer fetch cache k = fetch k := by
  rw [answer, h]

theorem answer_of_some {b : β} (h : cache k = some b) : answer fetch cache k = some b := by
  rw [answer, h]

theorem coherent_empty : Coherent fetch fun _ => none := by
  intro k b h
  cases h

/-- **Coherence is what makes the lookups of a cache those of the store.** -/
theorem coherent_iff : Coherent fetch cache ↔ ∀ k, answer fetch cache k = fetch k := by
  constructor
  · intro h k
    cases hk : cache k with
    | none => exact answer_of_none hk
    | some b => rw [answer_of_some hk, h k b hk]
  · intro h k b hk
    rw [← h k, answer_of_some hk]

/-- **A write of the store** is harmless when it keeps what is cached, and only then. -/
theorem Coherent.write_iff (h : Coherent fetch cache) :
    Coherent fetch' cache ↔ ∀ k b, cache k = some b → fetch' k = fetch k := by
  constructor
  · intro h' k b hk
    rw [h k b hk, h' k b hk]
  · intro hsame k b hk
    rw [hsame k b hk, h k b hk]

variable [DecidableEq κ]

/-- What has been fetched is kept. -/
theorem Coherent.fill {b : β} (h : Coherent fetch cache) (hfetch : fetch k = some b) :
    Coherent fetch (Function.update cache k (some b)) := by
  intro k' b' hk'
  by_cases hkey : k' = k
  · rw [hkey, Function.update_self, Option.some_inj] at hk'
    rw [hkey, hfetch, hk']
  · rw [Function.update_of_ne hkey] at hk'
    exact h k' b' hk'

end Wormhole.Lib.ReadThrough
