/-
# Wormhole.Lib.Bitmap — numbers as finite sets of bit positions.

`IsBitmap w m S` says that `m` is a `w`-bit number whose set bits are exactly the members of `S`
below `w`.  The relation determines `m` (`IsBitmap.unique`), the empty set is `0`, and setting a bit
is `m ||| 2 ^ i` (`IsBitmap.insert`).  `zeros w m` lists the clear bits in ascending order.  A bitmap
that is a list of truth values has the positions `marked`.
-/
import Mathlib

namespace Wormhole.Lib.Bitmap

/-- `m` fits in `w` bits and its set bits are the members of `S`. -/
structure IsBitmap (w m : Nat) (S : Set Nat) : Prop where
  lt : m < 2 ^ w
  testBit_iff : ∀ i < w, m.testBit i = true ↔ i ∈ S

namespace IsBitmap

variable {w m m' i : Nat} {S T : Set Nat}

theorem unique (h : IsBitmap w m S) (h' : IsBitmap w m' S) : m = m' := by
  apply Nat.eq_of_testBit_eq
  intro i
  rcases Nat.lt_or_ge i w with hi | hi
  · rw [Bool.eq_iff_iff, h.testBit_iff i hi, h'.testBit_iff i hi]
  · have hpow : 2 ^ w ≤ 2 ^ i := Nat.pow_le_pow_right (by omega) hi
    rw [Nat.testBit_lt_two_pow (lt_of_lt_of_le h.lt hpow),
      Nat.testBit_lt_two_pow (lt_of_lt_of_le h'.lt hpow)]

theorem congr (h : IsBitmap w m S) (hST : ∀ i < w, i ∈ S ↔ i ∈ T) : IsBitmap w m T :=
  ⟨h.lt, fun i hi => (h.testBit_iff i hi).trans (hST i hi)⟩

theorem zero (hS : ∀ i < w, i ∉ S) : IsBitmap w 0 S :=
  ⟨Nat.two_pow_pos w, fun i hi => by simp [hS i hi]⟩

/-- Setting a bit inserts its position. -/
theorem insert (h : IsBitmap w m S) (hi : i < w) : IsBitmap w (m ||| 2 ^ i) (insert i S) := by
  refine ⟨Nat.or_lt_two_pow h.lt (Nat.pow_lt_pow_right (by omega) hi), fun j hj => ?_⟩
  rw [Nat.testBit_or, Nat.testBit_two_pow, Bool.or_eq_true, decide_eq_true_eq,
    h.testBit_iff j hj, Set.mem_insert_iff]
  tauto

end IsBitmap

/-- The clear bits of `m` below `w`, ascending. -/
def zeros (w m : Nat) : List Nat := (List.range w).filter fun i => !m.testBit i

theorem mem_zeros {w m i : Nat} : i ∈ zeros w m ↔ i < w ∧ m.testBit i = false := by
  simp [zeros]

theorem zeros_pairwise (w m : Nat) : (zeros w m).Pairwise (· < ·) :=
  List.Pairwise.filter _ List.pairwise_lt_range

theorem zeros_eq_nil {w m : Nat} : zeros w m = [] ↔ ∀ i < w, m.testBit i = true := by
  simp [zeros]

/-- The lowest clear bit. -/
theorem zeros_head? {w m i : Nat} :
    (zeros w m).head? = some i ↔ i < w ∧ m.testBit i = false ∧ ∀ j < i, m.testBit j = true := by
  rw [zeros, List.head?_filter, List.find?_range_eq_some]
  simp only [Bool.not_eq_true', List.mem_range, Bool.not_not]
  tauto

theorem zeros_full (w : Nat) : zeros w (2 ^ w - 1) = [] := by
  rw [List.eq_nil_iff_forall_not_mem]
  intro i hi
  obtain ⟨hlt, hbit⟩ := mem_zeros.mp hi
  rw [Nat.testBit_two_pow_sub_one, decide_eq_false_iff_not] at hbit
  exact hbit hlt

/-- The positions below `a * b`, in blocks of `b`. -/
theorem range_mul (a b : Nat) :
    List.range (a * b) = (List.range a).flatMap fun i => (List.range b).map (b * i + ·) := by
  induction a with
  | zero => simp
  | succ a ih =>
    rw [Nat.succ_mul, List.range_add, ih, List.range_succ, List.flatMap_append,
      List.flatMap_singleton, Nat.mul_comm]

/-- Testing a bit with a one-bit mask. -/
theorem and_two_pow_eq_zero {m i : Nat} : m &&& 2 ^ i = 0 ↔ m.testBit i = false := by
  rw [Nat.and_two_pow]
  cases m.testBit i <;> simp

/-! ## Lists of truth values -/

/-- The positions that are true. -/
def marked (l : List Bool) : Finset Nat := (Finset.range l.length).filter fun i => l[i]? = some true

theorem getElem?_of_mem_marked {l : List Bool} {i : Nat} (h : i ∈ marked l) : l[i]? = some true :=
  (Finset.mem_filter.mp h).2

theorem card_marked (l : List Bool) : (marked l).card = l.count true := by
  induction l using List.reverseRecOn with
  | nil => rfl
  | append_singleton l b ih =>
    have hsame : ((Finset.range l.length).filter fun i => (l ++ [b])[i]? = some true) = marked l := by
      refine Finset.filter_congr ?_
      intro i hi
      rw [List.getElem?_append_left (Finset.mem_range.mp hi)]
    rw [marked, List.length_append, List.length_singleton, Finset.range_add_one, Finset.filter_insert,
      hsame, List.count_append, ← ih, List.getElem?_concat_length]
    cases b with
    | true =>
      rw [if_pos rfl, Finset.card_insert_of_notMem (by simp [marked])]
      rfl
    | false =>
      rw [if_neg (by simp)]
      rfl

end Wormhole.Lib.Bitmap
