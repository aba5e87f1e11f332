/-
# Wormhole.Lib.PrefixCodes — codes without separators.

A code is a set of words, and prefix-free when no word starts another.  What follows a word can then be told from it
(`PrefixFree.append_inj`), and a concatenation of words is split in one way only (`PrefixFree.uniquelyDecodable`).
Codes are prefix-free when the first letter of a word tells its length, and stay so when every letter is written with a
fixed number of other ones.
-/
import Mathlib

namespace Wormhole.Lib

open InformationTheory (UniquelyDecodable)

variable {α β : Type*}

section Letters

variable {f : α → List β} {k : Nat}

/-- Words written with a fixed number of letters for each. -/
theorem prefix_of_flatMap (hf : Function.Injective f) (hk : ∀ x, (f x).length = k) (hpos : 0 < k)
    {c d : List α} (hle : c.flatMap f <+: d.flatMap f) : c <+: d := by
  induction c generalizing d with
  | nil => exact List.nil_prefix
  | cons x c ih =>
    cases d with
    | nil =>
      have hlen := hle.length_le
      simp only [List.flatMap_cons, List.flatMap_nil, List.length_append, hk, List.length_nil] at hlen
      omega
    | cons y d =>
      obtain ⟨t, ht⟩ := hle
      simp only [List.flatMap_cons, List.append_assoc] at ht
      obtain ⟨hxy, htail⟩ := List.append_inj ht (by rw [hk, hk])
      rw [hf hxy]
      exact List.cons_prefix_cons.mpr ⟨rfl, ih ⟨t, htail⟩⟩

theorem flatMap_injective_of_length (hf : Function.Injective f) (hk : ∀ x, (f x).length = k) (hpos : 0 < k) :
    Function.Injective fun c : List α => c.flatMap f := by
  intro c d (h : c.flatMap f = d.flatMap f)
  have hcd : c <+: d := prefix_of_flatMap hf hk hpos (h ▸ List.prefix_rfl)
  have hdc : d <+: c := prefix_of_flatMap hf hk hpos (h ▸ List.prefix_rfl)
  exact hcd.eq_of_length (Nat.le_antisymm hcd.length_le hdc.length_le)

end Letters

/-- No word starts another. -/
def PrefixFree (C : Set (List α)) : Prop := ∀ c ∈ C, ∀ d ∈ C, c <+: d → c = d

namespace PrefixFree

variable {C D : Set (List α)}

/-- What follows a word is told from it. -/
theorem append_inj (h : PrefixFree C) {c d s t : List α} (hc : c ∈ C) (hd : d ∈ C) (heq : c ++ s = d ++ t) :
    c = d ∧ s = t := by
  have hcd : c = d := by
    rcases List.prefix_or_prefix_of_prefix (List.prefix_append c s) (heq ▸ List.prefix_append d t) with hle | hle
    · exact h c hc d hd hle
    · exact (h d hd c hc hle).symm
  subst hcd
  exact ⟨rfl, List.append_cancel_left heq⟩

/-- **Concatenations** of words are split in one way only. -/
theorem uniquelyDecodable (h : PrefixFree C) (hne : [] ∉ C) : UniquelyDecodable C := by
  intro cs ds hcs hds heq
  induction cs generalizing ds with
  | nil =>
    cases ds with
    | nil => rfl
    | cons d ds =>
      have hnil : d = [] := (List.append_eq_nil_iff.mp heq.symm).1
      exact absurd (hnil ▸ hds d List.mem_cons_self) hne
  | cons c cs ih =>
    cases ds with
    | nil =>
      have hnil : c = [] := (List.append_eq_nil_iff.mp heq).1
      exact absurd (hnil ▸ hcs c List.mem_cons_self) hne
    | cons d ds =>
      obtain ⟨rfl, htail⟩ := h.append_inj (hcs c List.mem_cons_self) (hds d List.mem_cons_self) heq
      rw [ih ds (fun w hw => hcs w (List.mem_cons_of_mem c hw)) (fun w hw => hds w (List.mem_cons_of_mem c hw)) htail]

/-- The first letter of a word tells its length. -/
theorem of_head (len : α → Nat) (h : ∀ c ∈ C, ∃ x rest, c = x :: rest ∧ c.length = len x) : PrefixFree C := by
  intro c hc d hd hle
  obtain ⟨x, rest, hx, hlen⟩ := h c hc
  obtain ⟨y, rest', hy, hlen'⟩ := h d hd
  have hhead : x = y := by
    rw [hx, hy] at hle
    exact (List.cons_prefix_cons.mp hle).1
  exact hle.eq_of_length (by rw [hlen, hlen', hhead])

/-- Every letter is written with `k` others. -/
theorem flatMap (h : PrefixFree C) {f : α → List β} {k : Nat} (hf : Function.Injective f)
    (hk : ∀ x, (f x).length = k) (hpos : 0 < k) : PrefixFree ((fun c => c.flatMap f) '' C) := by
  rintro _ ⟨c, hc, rfl⟩ _ ⟨d, hd, rfl⟩ hle
  rw [h c hc d hd (prefix_of_flatMap hf hk hpos hle)]

end PrefixFree

end Wormhole.Lib
