/-
# Wormhole.Lib.Entries — a property of every entry of an association list.

`Entries P m` says that every key and value of `m` are related by `P`.  Writing an entry needs `P` of
that entry only, deleting one needs nothing.
-/
import Mathlib

namespace Wormhole.Lib

variable {α β : Type*} [DecidableEq α] {P Q : α → β → Prop} {m : AList fun _ : α => β}

/-- Every entry has the property. -/
def Entries (P : α → β → Prop) (m : AList fun _ : α => β) : Prop := ∀ a b, m.lookup a = some b → P a b

namespace Entries

theorem empty : Entries P (∅ : AList fun _ : α => β) := by
  intro a b h
  rw [AList.lookup_empty] at h
  cases h

theorem mono (h : Entries P m) (hPQ : ∀ a b, P a b → Q a b) : Entries Q m :=
  fun a b hab => hPQ a b (h a b hab)

theorem insert (h : Entries P m) {a : α} {b : β} (hab : P a b) : Entries P (m.insert a b) := by
  intro a' b' h'
  by_cases heq : a' = a
  · subst heq
    rw [AList.lookup_insert] at h'
    rwa [← Option.some.inj h']
  · rw [AList.lookup_insert_ne heq] at h'
    exact h a' b' h'

theorem erase (h : Entries P m) (a : α) : Entries P (m.erase a) := by
  intro a' b' h'
  by_cases heq : a' = a
  · subst heq
    rw [AList.lookup_erase] at h'
    cases h'
  · rw [AList.lookup_erase_ne heq] at h'
    exact h a' b' h'

end Entries

end Wormhole.Lib
