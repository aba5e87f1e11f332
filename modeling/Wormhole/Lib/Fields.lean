/-
# Wormhole.Lib.Fields — a record as its fields, one behind the other.

A list is the concatenation of some fields iff each of them stands where the ones before it end, and
nothing follows (`fields_iff_flatten`).  A writer puts the fields together and a reader takes slices; this is
what relates the two, in both directions.
-/
import Mathlib
import Wormhole.Lib.Bytes

namespace Wormhole.Lib.Bytes

variable {α : Type*} {data field : List α} {i : Nat}

/-- The fields stand in the list from a position on, up to its end. -/
def Fields (data : List α) : Nat → List (List α) → Prop
  | i, [] => i = data.length
  | i, field :: rest => slice? data i (i + field.length) = some field ∧ Fields data (i + field.length) rest

/-- A field, and what is behind it. -/
theorem slice?_iff_drop :
    slice? data i (i + field.length) = some field ↔
      i + field.length ≤ data.length ∧ data.drop i = field ++ data.drop (i + field.length) := by
  rw [slice?_eq_some, Nat.add_sub_cancel_left]
  constructor
  · rintro ⟨-, hle, htake⟩
    refine ⟨hle, ?_⟩
    calc data.drop i = (data.drop i).take field.length ++ (data.drop i).drop field.length :=
          (List.take_append_drop ..).symm
      _ = field ++ data.drop (i + field.length) := by rw [htake, List.drop_drop]
  · rintro ⟨hle, hdrop⟩
    refine ⟨by omega, hle, ?_⟩
    rw [hdrop, List.take_left]

theorem fields_iff_drop {fields : List (List α)} :
    Fields data i fields ↔ i ≤ data.length ∧ data.drop i = fields.flatten := by
  induction fields generalizing i with
  | nil =>
    show i = data.length ↔ i ≤ data.length ∧ data.drop i = []
    rw [List.drop_eq_nil_iff]
    omega
  | cons field rest ih =>
    show slice? data i (i + field.length) = some field ∧ Fields data (i + field.length) rest ↔
      i ≤ data.length ∧ data.drop i = field ++ rest.flatten
    rw [ih, slice?_iff_drop]
    constructor
    · rintro ⟨⟨hle, hdrop⟩, -, hrest⟩
      exact ⟨by omega, by rw [hdrop, hrest]⟩
    · rintro ⟨hle, hdrop⟩
      have hlength : i + field.length ≤ data.length := by
        have := congrArg List.length hdrop
        rw [List.length_drop, List.length_append] at this
        omega
      have hrest : data.drop (i + field.length) = rest.flatten := by
        rw [← List.drop_drop, hdrop, List.drop_left]
      exact ⟨⟨hlength, by rw [hrest, hdrop]⟩, hlength, hrest⟩

/-- A record is its fields. -/
theorem fields_iff_flatten {fields : List (List α)} : Fields data 0 fields ↔ data = fields.flatten := by
  rw [fields_iff_drop, List.drop_zero]
  exact ⟨And.right, fun h => ⟨Nat.zero_le _, h⟩⟩

end Wormhole.Lib.Bytes
