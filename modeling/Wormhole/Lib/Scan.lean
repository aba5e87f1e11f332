/-
# Wormhole.Lib.Scan — scans of a sorted map.

An iterator is set on the first key that is not below a bound, and goes on as long as the keys have a
property.  It sees all keys with the property, and no others, if these are an interval that starts at the bound
(`scan_eq_filter`).  The texts with a prefix are such an interval (`startsAt_hasPrefix`).
-/
import Mathlib
import Wormhole.Lib.SortedMap

namespace Wormhole.Lib.SortedMap

/-! ## Intervals of keys -/

section Scan

variable {κ α : Type*} [LinearOrder κ] {P : κ → Bool} {bound : κ} {l : List (κ × α)}

/-- Seek the bound, and go on while the keys have the property. -/
def scan (bound : κ) (P : κ → Bool) (l : List (κ × α)) : List (κ × α) :=
  (l.dropWhile fun x => x.1 < bound).takeWhile fun x => P x.1

/-- The keys with the property are an interval that starts at the bound. -/
structure StartsAt (P : κ → Bool) (bound : κ) : Prop where
  le : ∀ k, P k → bound ≤ k
  initial : ∀ k k', bound ≤ k → k ≤ k' → P k' → P k

/-- From the bound on, what does not have the property is behind all that has. -/
theorem takeWhile_eq_filter (hP : StartsAt P bound) (h : Sorted l) (hle : ∀ x ∈ l, bound ≤ x.1) :
    (l.takeWhile fun x => P x.1) = l.filter fun x => P x.1 := by
  induction l with
  | nil => rfl
  | cons x l ih =>
    obtain ⟨hx, hl⟩ := List.pairwise_cons.mp h
    by_cases hPx : P x.1
    · rw [List.takeWhile_cons, if_pos hPx, List.filter_cons, if_pos hPx,
        ih hl fun y hy => hle y (List.mem_cons_of_mem _ hy)]
    · rw [List.takeWhile_cons, if_neg hPx, List.filter_cons, if_neg hPx]
      refine (List.filter_eq_nil_iff.mpr ?_).symm
      intro y hy hPy
      exact hPx (hP.initial x.1 y.1 (hle x List.mem_cons_self) (hx y hy).le hPy)

/-- **What a scan sees.** -/
theorem scan_eq_filter (hP : StartsAt P bound) (h : Sorted l) : scan bound P l = l.filter fun x => P x.1 := by
  induction l with
  | nil => rfl
  | cons x l ih =>
    obtain ⟨hx, hl⟩ := List.pairwise_cons.mp h
    by_cases hlt : x.1 < bound
    · have hPx : ¬P x.1 := fun hPx => absurd (hP.le x.1 hPx) (not_le.mpr hlt)
      rw [scan, List.dropWhile_cons, if_pos (decide_eq_true hlt), List.filter_cons, if_neg hPx]
      exact ih hl
    · have hle := not_lt.mp hlt
      rw [scan, List.dropWhile_cons, if_neg fun h => hlt (of_decide_eq_true h)]
      refine takeWhile_eq_filter hP h ?_
      intro y hy
      rcases List.mem_cons.mp hy with rfl | hy
      · exact hle
      · exact hle.trans (hx y hy).le

end Scan

/-! ## Prefixes -/

/-- The text starts with the prefix. -/
def hasPrefix (p s : String) : Bool := p.toList.isPrefixOf s.toList

theorem hasPrefix_iff {p s : String} : hasPrefix p s ↔ p.toList <+: s.toList := List.isPrefixOf_iff_prefix

section Lists

variable {β : Type*} [LinearOrder β] {p k r : List β}

theorem cons_le_cons_iff {b c : β} : b :: p ≤ c :: k ↔ b < c ∨ b = c ∧ p ≤ k := by
  rw [← not_lt, List.cons_lt_cons_iff, ← not_lt]
  rcases lt_trichotomy b c with hlt | rfl | hgt
  · simp [hlt, hlt.asymm, hlt.ne']
  · simp
  · simp [hgt, hgt.asymm, hgt.ne']

theorem nil_le (k : List β) : [] ≤ k := not_lt.mp (List.not_lt_nil k)

theorem le_append (p r : List β) : p ≤ p ++ r := by
  induction p with
  | nil => exact nil_le _
  | cons b p ih =>
    rw [List.cons_append, cons_le_cons_iff]
    exact .inr ⟨rfl, ih⟩

/-- Between a prefix and a text that starts with it, everything does. -/
theorem prefix_of_between (hle : p ≤ k) (hge : k ≤ p ++ r) : p <+: k := by
  induction p generalizing k with
  | nil => exact List.nil_prefix
  | cons b p ih =>
    cases k with
    | nil => exact absurd (le_antisymm hle (nil_le _)) (List.cons_ne_nil _ _)
    | cons c k =>
      rw [cons_le_cons_iff] at hle
      rw [List.cons_append, cons_le_cons_iff] at hge
      rcases hge with hlt | ⟨rfl, hge⟩
      · rcases hle with hlt' | ⟨rfl, -⟩
        · exact absurd hlt hlt'.asymm
        · exact absurd hlt (lt_irrefl _)
      · rcases hle with hlt | ⟨-, hle⟩
        · exact absurd hlt (lt_irrefl _)
        · exact List.cons_prefix_cons.mpr ⟨rfl, ih hle hge⟩

end Lists

/-- **The texts with a prefix** are an interval that starts at the prefix. -/
theorem startsAt_hasPrefix (p : String) : StartsAt (hasPrefix p) p where
  le := by
    intro k hk
    obtain ⟨r, hr⟩ := hasPrefix_iff.mp hk
    rw [String.le_iff_toList_le, ← hr]
    exact le_append _ _
  initial := by
    intro k k' hle hge hk'
    obtain ⟨r, hr⟩ := hasPrefix_iff.mp hk'
    rw [String.le_iff_toList_le] at hle hge
    rw [← hr] at hge
    exact hasPrefix_iff.mpr (prefix_of_between hle hge)

end Wormhole.Lib.SortedMap
