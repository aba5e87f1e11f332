/-
# Wormhole.Lib.Newest — the newest entry of a log.

Entries carry numbers, and the newest entry of a log is one with the largest number; it does not depend on the
order of the log.  A register that is overwritten only by larger numbers holds the newest entry of all that it
has been offered (`newest_offers`).  One that is always overwritten shows the newest entry as long as no entry
comes late with something else to show (`shows_snoc_iff`).
-/
import Mathlib

namespace Wormhole.Lib

variable {ε β : Type*} {number : ε → Nat} {log : List ε} {e new : ε}

/-- `e` is the newest entry of the log. -/
structure Newest (number : ε → Nat) (log : List ε) (e : ε) : Prop where
  mem : e ∈ log
  le : ∀ e' ∈ log, number e' ≤ number e

instance [DecidableEq ε] : Decidable (Newest number log e) :=
  decidable_of_iff (e ∈ log ∧ ∀ e' ∈ log, number e' ≤ number e) ⟨fun h => ⟨h.1, h.2⟩, fun h => ⟨h.mem, h.le⟩⟩

namespace Newest

theorem singleton (e : ε) : Newest number [e] e := by
  refine ⟨List.mem_singleton_self e, ?_⟩
  intro e' he'
  rw [List.mem_singleton.mp he']

/-- A later entry with a larger number is the newest one. -/
theorem snoc_of_le (h : Newest number log e) (hle : number e ≤ number new) : Newest number (log ++ [new]) new := by
  refine ⟨List.mem_concat_self, ?_⟩
  intro e' he'
  rcases List.mem_append.mp he' with he' | he'
  · exact (h.le e' he').trans hle
  · rw [List.mem_singleton.mp he']

/-- A later entry with a smaller number changes nothing. -/
theorem snoc_of_ge (h : Newest number log e) (hle : number new ≤ number e) : Newest number (log ++ [new]) e := by
  refine ⟨List.mem_append_left _ h.mem, ?_⟩
  intro e' he'
  rcases List.mem_append.mp he' with he' | he'
  · exact h.le e' he'
  · rwa [List.mem_singleton.mp he']

/-- The newest entry of a log, if it was there before. -/
theorem of_snoc (h : Newest number (log ++ [new]) e) (he : e ∈ log) : Newest number log e ∧ number new ≤ number e :=
  ⟨⟨he, fun e' he' => h.le e' (List.mem_append_left _ he')⟩, h.le new List.mem_concat_self⟩

/-- Entries with different numbers have one newest. -/
theorem unique {e' : ε} (hdistinct : Set.InjOn number {e | e ∈ log}) (h : Newest number log e)
    (h' : Newest number log e') : e = e' :=
  hdistinct h.mem h'.mem (le_antisymm (h'.le e h.mem) (h.le e' h'.mem))

end Newest

/-! ## Registers that take larger numbers -/

/-- An entry is offered to a register. -/
def offer (number : ε → Nat) (held new : ε) : ε := if number held < number new then new else held

theorem le_offer_held {held : ε} : number held ≤ number (offer number held new) := by
  unfold offer
  split
  · rename_i hlt
    exact hlt.le
  · exact le_rfl

theorem le_offer_new {held : ε} : number new ≤ number (offer number held new) := by
  unfold offer
  split
  · exact le_rfl
  · rename_i hle
    exact not_lt.mp hle

/-- **What a register holds** is the newest entry of all. -/
theorem newest_offers (first : ε) (rest : List ε) :
    Newest number (first :: rest) (rest.foldl (offer number) first) := by
  induction rest using List.reverseRecOn with
  | nil => exact .singleton first
  | append_singleton rest new ih =>
    rw [List.foldl_append, List.foldl_cons, List.foldl_nil, ← List.cons_append, offer]
    split
    · rename_i hlt
      exact ih.snoc_of_le hlt.le
    · rename_i hle
      exact ih.snoc_of_ge (not_lt.mp hle)

/-! ## Registers that take anything -/

/-- What is shown is the view of the newest entry. -/
def Shows (number : ε → Nat) (view : ε → β) (log : List ε) (shown : β) : Prop :=
  ∀ e, Newest number log e → shown = view e

instance [DecidableEq ε] [DecidableEq β] {view : ε → β} {shown : β} : Decidable (Shows number view log shown) :=
  decidable_of_iff (∀ e ∈ log, Newest number log e → shown = view e)
    ⟨fun h e he => h e he.mem he, fun h e _ he => h e he⟩

/-- **Overwriting** shows the newest entry exactly if nothing newer has another view. -/
theorem shows_snoc_iff {view : ε → β} (hfresh : ∀ e ∈ log, number e ≠ number new) :
    Shows number view (log ++ [new]) (view new) ↔
      ∀ e, Newest number log e → number new < number e → view new = view e := by
  constructor
  · intro h e he hlt
    exact h e (he.snoc_of_ge hlt.le)
  · intro h e he
    rcases List.mem_append.mp he.mem with hmem | hmem
    · obtain ⟨hnewest, hle⟩ := he.of_snoc hmem
      exact h e hnewest (lt_of_le_of_ne hle (hfresh e hmem).symm)
    · rw [List.mem_singleton.mp hmem]

end Wormhole.Lib
