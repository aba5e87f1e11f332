/-
# Wormhole.Lib.SortedMap — maps that are walked in the order of their keys.

A map is a list of keys and values with increasing keys.  `insert` adds or replaces a value, `Sorted`
is the invariant it keeps, and `mem_insert` says what is in the map afterwards.
-/
import Mathlib

namespace Wormhole.Lib.SortedMap

variable {κ α : Type*} [LinearOrder κ]

/-- The keys increase. -/
def Sorted (l : List (κ × α)) : Prop := l.Pairwise fun x y => x.1 < y.1

/-- Add a value, or replace the one of its key. -/
def insert (k : κ) (a : α) : List (κ × α) → List (κ × α)
  | [] => [(k, a)]
  | (k', a') :: l =>
    if k < k' then (k, a) :: (k', a') :: l
    else if k = k' then (k, a) :: l
    else (k', a') :: insert k a l

theorem Sorted.nil : Sorted ([] : List (κ × α)) := List.Pairwise.nil

/-- **Membership.** The new value, and what stands under the other keys. -/
theorem mem_insert {l : List (κ × α)} (h : Sorted l) {k : κ} {a : α} {x : κ × α} :
    x ∈ insert k a l ↔ x = (k, a) ∨ x ∈ l ∧ x.1 ≠ k := by
  induction l with
  | nil => simp [insert]
  | cons y l ih =>
    obtain ⟨k', a'⟩ := y
    obtain ⟨hy, hl⟩ := List.pairwise_cons.mp h
    have hkey : ∀ x ∈ l, k ≤ k' → x.1 ≠ k := by
      rintro x hx hle rfl
      exact absurd (hy x hx) (not_lt.mpr hle)
    rw [insert]
    split
    · rename_i hlt
      constructor
      · intro hx
        rcases List.mem_cons.mp hx with rfl | hx
        · exact .inl rfl
        · refine .inr ⟨hx, ?_⟩
          rcases List.mem_cons.mp hx with rfl | hx
          · exact hlt.ne'
          · exact hkey x hx hlt.le
      · rintro (rfl | ⟨hx, -⟩)
        · exact List.mem_cons_self ..
        · exact List.mem_cons_of_mem _ hx
    · split
      · rename_i heq
        subst heq
        constructor
        · intro hx
          rcases List.mem_cons.mp hx with rfl | hx
          · exact .inl rfl
          · exact .inr ⟨List.mem_cons_of_mem _ hx, hkey x hx le_rfl⟩
        · rintro (rfl | ⟨hx, hne⟩)
          · exact List.mem_cons_self ..
          · rcases List.mem_cons.mp hx with rfl | hx
            · exact absurd rfl hne
            · exact List.mem_cons_of_mem _ hx
      · rename_i hne
        rw [List.mem_cons, ih hl, List.mem_cons]
        constructor
        · rintro (rfl | rfl | ⟨hx, hxk⟩)
          · exact .inr ⟨.inl rfl, fun heq => hne heq.symm⟩
          · exact .inl rfl
          · exact .inr ⟨.inr hx, hxk⟩
        · rintro (rfl | ⟨rfl | hx, hxk⟩)
          · exact .inr (.inl rfl)
          · exact .inl rfl
          · exact .inr (.inr ⟨hx, hxk⟩)

theorem Sorted.insert {l : List (κ × α)} (h : Sorted l) (k : κ) (a : α) :
    Sorted (insert k a l) := by
  induction l with
  | nil => exact List.pairwise_singleton ..
  | cons y l ih =>
    obtain ⟨k', a'⟩ := y
    obtain ⟨hy, hl⟩ := List.pairwise_cons.mp h
    rw [SortedMap.insert]
    split
    · rename_i hlt
      refine List.pairwise_cons.mpr ⟨fun x hx => ?_, h⟩
      rcases List.mem_cons.mp hx with rfl | hx
      · exact hlt
      · exact hlt.trans (hy x hx)
    · split
      · rename_i heq
        subst heq
        exact List.pairwise_cons.mpr ⟨hy, hl⟩
      · rename_i hlt hne
        refine List.pairwise_cons.mpr ⟨fun x hx => ?_, ih hl⟩
        rcases (mem_insert hl).mp hx with rfl | ⟨hx, -⟩
        · exact lt_of_le_of_ne (not_lt.mp hlt) fun heq => hne heq.symm
        · exact hy x hx

/-- The keys of a sorted map are different. -/
theorem Sorted.nodup_keys {l : List (κ × α)} (h : Sorted l) : (l.map Prod.fst).Nodup :=
  List.pairwise_map.mpr (h.imp fun hlt => hlt.ne)

end Wormhole.Lib.SortedMap
