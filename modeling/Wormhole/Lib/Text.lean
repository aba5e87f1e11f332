/-
# Wormhole.Lib.Text — decimal numbers, and fields between separators.

A number is written with `Nat.repr`; `parseDecimal` reads digits back, and nothing else.  A text whose fields do not
contain the separator is split at it into these fields, and two such texts can only be prefixes of each other field by
field (`prefix_of_separated`).
-/
import Mathlib

namespace Wormhole.Lib.Text

/-! ## Decimal numbers -/

/-- The number that a text of decimal digits stands for. -/
def parseDecimal (s : String) : Option Nat :=
  if s ≠ "" ∧ ∀ c ∈ s.toList, c.isDigit then some (Nat.ofDigitChars 10 s.toList 0) else none

theorem isDigit_of_mem_repr {n : Nat} {c : Char} (h : c ∈ n.repr.toList) : c.isDigit := by
  rw [Nat.toList_repr] at h
  exact Nat.isDigit_of_mem_toDigits (by decide) (by decide) h

/-- What is not a digit is not in a number. -/
theorem notMem_repr {c : Char} (n : Nat) (h : c.isDigit = false) : c ∉ n.repr.toList := by
  intro hmem
  rw [isDigit_of_mem_repr hmem] at h
  cases h

/-- **There and back.** -/
@[simp]
theorem parseDecimal_repr (n : Nat) : parseDecimal n.repr = some n := by
  rw [parseDecimal, if_pos ⟨Nat.repr_ne_empty, fun c hc => isDigit_of_mem_repr hc⟩, Nat.toList_repr,
    Nat.ofDigitChars_ten_toDigits]

/-! ## Separators -/

variable {α : Type*} {sep : α} {xs xs' : List α}

/-- The first field of a prefix is the first field. -/
theorem prefix_of_separated (hxs : sep ∉ xs) (hxs' : sep ∉ xs') {ys zs : List α}
    (h : xs ++ sep :: ys <+: xs' ++ sep :: zs) : xs = xs' ∧ ys <+: zs := by
  induction xs generalizing xs' with
  | nil =>
    cases xs' with
    | nil => exact ⟨rfl, (List.cons_prefix_cons.mp h).2⟩
    | cons y xs' =>
      obtain ⟨rfl, -⟩ := List.cons_prefix_cons.mp h
      exact absurd List.mem_cons_self hxs'
  | cons x xs ih =>
    cases xs' with
    | nil =>
      obtain ⟨rfl, -⟩ := List.cons_prefix_cons.mp h
      exact absurd List.mem_cons_self hxs
    | cons y xs' =>
      obtain ⟨rfl, hrest⟩ := List.cons_prefix_cons.mp h
      obtain ⟨rfl, hys⟩ := ih (fun hmem => hxs (List.mem_cons_of_mem _ hmem))
        (fun hmem => hxs' (List.mem_cons_of_mem _ hmem)) hrest
      exact ⟨rfl, hys⟩

end Wormhole.Lib.Text
