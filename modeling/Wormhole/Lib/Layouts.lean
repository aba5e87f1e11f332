/-
# Wormhole.Lib.Layouts — strings of several kinds, told apart by their tags and lengths.

A layout says what the strings of one kind look like: a constant tag, and behind it a number of further symbols
between two bounds.  Two layouts are apart when no string can have both, because the lengths do not meet, or because
neither tag continues the other.  A family of kinds with data of their own, each written without collisions and each
two in layouts apart, is written without collisions as a whole (`Family.write_injective`); nothing marks the kind but
the string.
-/
import Mathlib

namespace Wormhole.Lib

/-- A tag, with at least `least` and at most `most` symbols behind it. -/
structure Layout (α : Type*) where
  tag : List α
  least : Nat
  most : Nat

namespace Layout

variable {α : Type*}

/-- A tag with `n` symbols behind it. -/
def fixed (tag : List α) (n : Nat) : Layout α := ⟨tag, n, n⟩

/-- The string has the layout. -/
def Admits (l : Layout α) (s : List α) : Prop :=
  ∃ rest, s = l.tag ++ rest ∧ l.least ≤ rest.length ∧ rest.length ≤ l.most

/-- Every string of the one layout is shorter than every string of the other. -/
def Shorter (a b : Layout α) : Prop := a.tag.length + a.most < b.tag.length + b.least

/-- The tags differ where both have symbols. -/
def TagsDiffer (a b : Layout α) : Prop := a.tag.take b.tag.length ≠ b.tag.take a.tag.length

/-- What tells the layouts apart. -/
def Apart (a b : Layout α) : Prop := a.Shorter b ∨ b.Shorter a ∨ a.TagsDiffer b

instance (a b : Layout α) : Decidable (a.Shorter b) := inferInstanceAs (Decidable (_ < _))

instance [DecidableEq α] (a b : Layout α) : Decidable (a.TagsDiffer b) := inferInstanceAs (Decidable (_ ≠ _))

instance [DecidableEq α] (a b : Layout α) : Decidable (a.Apart b) := inferInstanceAs (Decidable (_ ∨ _ ∨ _))

variable {a b : Layout α} {s t : List α}

theorem admits_fixed {tag rest : List α} {n : Nat} (h : rest.length = n) : (fixed tag n).Admits (tag ++ rest) :=
  ⟨rest, rfl, h.ge, h.le⟩

theorem Admits.length (h : a.Admits s) :
    a.tag.length + a.least ≤ s.length ∧ s.length ≤ a.tag.length + a.most := by
  obtain ⟨rest, rfl, hleast, hmost⟩ := h
  rw [List.length_append]
  omega

theorem Admits.ne_of_shorter (hs : a.Admits s) (ht : b.Admits t) (h : a.Shorter b) : s ≠ t := by
  rintro rfl
  have hmost := hs.length.2
  have hleast := ht.length.1
  unfold Shorter at h
  omega

/-- The first symbols of a string are those of its tag, as far as it goes. -/
theorem Admits.take_take (h : a.Admits s) (n : Nat) : (s.take a.tag.length).take n = a.tag.take n := by
  obtain ⟨rest, rfl, -, -⟩ := h
  rw [List.take_left]

theorem Admits.ne_of_tags (hs : a.Admits s) (ht : b.Admits t) (h : a.TagsDiffer b) : s ≠ t := by
  rintro rfl
  apply h
  rw [← hs.take_take b.tag.length, ← ht.take_take a.tag.length, List.take_take, List.take_take, Nat.min_comm]

/-- Strings of layouts apart are different. -/
theorem Apart.ne (h : a.Apart b) (hs : a.Admits s) (ht : b.Admits t) : s ≠ t := by
  rcases h with hshorter | hshorter | htags
  · exact hs.ne_of_shorter ht hshorter
  · exact (ht.ne_of_shorter hs hshorter).symm
  · exact hs.ne_of_tags ht htags

end Layout

/-- Kinds of strings, with the data that each is written from. -/
structure Family (κ : Type*) (α : Type*) where
  Data : κ → Type
  write : (k : κ) → Data k → List α
  layout : κ → Layout α
  admits : ∀ k d, (layout k).Admits (write k d)
  /-- within a kind the string determines the data -/
  write_inj : ∀ {k d d'}, write k d = write k d' → d = d'
  apart : ∀ j k, j = k ∨ (layout j).Apart (layout k)

namespace Family

variable {κ α : Type*} (F : Family κ α)

/-- **The string determines** the kind and the data. -/
theorem write_injective : Function.Injective fun p : Sigma F.Data => F.write p.1 p.2 := by
  rintro ⟨j, d⟩ ⟨k, e⟩ h
  rcases F.apart j k with rfl | hapart
  · obtain rfl : d = e := F.write_inj h
    rfl
  · exact absurd h (hapart.ne (F.admits j d) (F.admits k e))

/-- So it does with one more symbol at its end. -/
theorem write_concat_injective :
    Function.Injective fun p : Sigma F.Data × α => F.write p.1.1 p.1.2 ++ [p.2] := by
  rintro ⟨p, x⟩ ⟨q, y⟩ h
  obtain ⟨hwrite, hlast⟩ := List.append_inj' h rfl
  obtain rfl : p = q := F.write_injective hwrite
  obtain rfl : x = y := (List.cons.inj hlast).1
  rfl

end Family

end Wormhole.Lib
