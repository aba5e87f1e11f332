/-
# Wormhole.Lib.Mapping — mappings that read a default where nothing was written.

A mapping is a total function that starts as the constant `d`.  `replay d log` is the mapping after the
writes of `log`, in order.  Reading tells less than the log: a key that reads `d` may never have been
written.  `written_of_read_iff` says when a value that is read was also written.

A mapping to `Option β` has entries; `update_eq_some` and `isSome_update` are what one write does to them.
-/
import Mathlib

namespace Wormhole.Lib.Mapping

variable {κ β : Type*} [DecidableEq κ] {d : β}

/-- The mapping after the writes of a log. -/
def replay (d : β) (log : List (κ × β)) : κ → β :=
  log.foldl (fun m write => Function.update m write.1 write.2) fun _ => d

@[simp]
theorem replay_nil (k : κ) : replay d [] k = d := rfl

@[simp]
theorem replay_concat (log : List (κ × β)) (k : κ) (b : β) :
    replay d (log ++ [(k, b)]) = Function.update (replay d log) k b := by
  simp [replay]

/-- What is read is the default or has been written. -/
theorem replay_mem (log : List (κ × β)) (k : κ) : replay d log k = d ∨ (k, replay d log k) ∈ log := by
  induction log using List.reverseRecOn with
  | nil => exact .inl rfl
  | append_singleton log write ih =>
    obtain ⟨k', b⟩ := write
    rw [replay_concat]
    by_cases hk : k = k'
    · subst hk
      rw [Function.update_self]
      exact .inr (by simp)
    · rw [Function.update_of_ne hk]
      exact ih.imp_right fun hmem => List.mem_append_left _ hmem

/-- A key that reads the default after it was written, was written the default. -/
theorem mem_of_replay_eq_default {log : List (κ × β)} {k : κ} {b : β} (hmem : (k, b) ∈ log)
    (hread : replay d log k = d) : (k, d) ∈ log := by
  induction log using List.reverseRecOn with
  | nil => cases hmem
  | append_singleton log write ih =>
    obtain ⟨k', b'⟩ := write
    rw [replay_concat] at hread
    by_cases hk : k = k'
    · subst hk
      rw [Function.update_self] at hread
      rw [hread]
      simp
    · rw [Function.update_of_ne hk] at hread
      rcases List.mem_append.mp hmem with hmem | hlast
      · exact List.mem_append_left _ (ih hmem hread)
      · rw [List.mem_singleton] at hlast
        exact absurd (congrArg Prod.fst hlast) hk

/-- **Read and written.** That a key reads `b` means that `b` was written there, unless `b` is the
default and the key was never written. -/
theorem written_of_read_iff (log : List (κ × β)) (k : κ) (b : β) :
    (replay d log k = b → (k, b) ∈ log) ↔ b ≠ d ∨ ∃ b', (k, b') ∈ log := by
  constructor
  · intro h
    by_contra hno
    rw [not_or, not_ne_iff] at hno
    obtain ⟨rfl, hnever⟩ := hno
    have hread : replay b log k = b :=
      (replay_mem log k).resolve_right fun hmem => hnever ⟨_, hmem⟩
    exact hnever ⟨b, h hread⟩
  · intro h hread
    subst hread
    rcases replay_mem log k with hdefault | hmem
    · rcases h with hne | ⟨b', hmem⟩
      · exact absurd hdefault hne
      · rw [hdefault]
        exact mem_of_replay_eq_default hmem hdefault
    · exact hmem

/-! ## One write -/

variable {f : κ → Option β} {k a : κ} {b c : β}

/-- An entry that is found was written just now or stood there before. -/
theorem update_eq_some (h : Function.update f k (some b) a = some c) : a = k ∧ b = c ∨ f a = some c := by
  by_cases hkey : a = k
  · rw [hkey, Function.update_self, Option.some_inj] at h
    exact .inl ⟨hkey, h⟩
  · rw [Function.update_of_ne hkey] at h
    exact .inr h

/-- An entry that is found after a deletion stood there before. -/
theorem update_none_eq_some (h : Function.update f k none a = some c) : a ≠ k ∧ f a = some c := by
  by_cases hkey : a = k
  · rw [hkey, Function.update_self] at h
    cases h
  · rw [Function.update_of_ne hkey] at h
    exact ⟨hkey, h⟩

/-- A write removes no entry. -/
theorem isSome_update (h : (f a).isSome) : (Function.update f k (some b) a).isSome := by
  by_cases hkey : a = k
  · rw [hkey, Function.update_self]
    rfl
  · rwa [Function.update_of_ne hkey]

theorem isSome_update_some (h : f k = some c) : (Function.update f k (some b) a).isSome ↔ (f a).isSome := by
  by_cases hkey : a = k
  · subst hkey
    rw [Function.update_self, h]
    exact Iff.rfl
  · rw [Function.update_of_ne hkey]

theorem isSome_update_self : (Function.update f k (some b) k).isSome := by
  rw [Function.update_self]
  rfl

end Wormhole.Lib.Mapping
