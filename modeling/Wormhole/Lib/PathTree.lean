/-
# Wormhole.Lib.PathTree — a tree whose nodes are found by the names on the way to them.

A path is the list of the names between a node and the root, the innermost first, so that the parent of
`name :: path` is `path`.  A `PathTree` has a value at each of finitely many paths; the root is one of
them, and so is the parent of every other one.

A tree is changed in three ways: the values are mapped, a child is added, and what is below a node is cut
off (`map`, `add`, `prune`).
-/
import Mathlib

namespace Wormhole.Lib

variable {ν α : Type*}

structure PathTree (ν α : Type*) where
  find : List ν → Option α
  paths : List (List ν)
  nodup : paths.Nodup
  mem_paths : ∀ path, path ∈ paths ↔ (find path).isSome
  root : (find []).isSome
  parent : ∀ name path, (find (name :: path)).isSome → (find path).isSome

namespace PathTree

/-- A tree that is only a root. -/
def single (a : α) : PathTree ν α where
  find
    | [] => some a
    | _ :: _ => none
  paths := [[]]
  nodup := List.nodup_singleton _
  mem_paths := by
    intro path
    cases path <;> simp
  root := rfl
  parent := by simp

/-- Change the values, knowing their paths. -/
def map (t : PathTree ν α) (f : List ν → α → α) : PathTree ν α where
  find path := (t.find path).map (f path)
  paths := t.paths
  nodup := t.nodup
  mem_paths := by
    intro path
    rw [Option.isSome_map]
    exact t.mem_paths path
  root := by
    rw [Option.isSome_map]
    exact t.root
  parent := by
    intro name path h
    rw [Option.isSome_map] at h ⊢
    exact t.parent name path h

/-- The ancestors of a node are nodes. -/
theorem isSome_of_suffix (t : PathTree ν α) {path q : List ν} (hsuffix : path <:+ q)
    (h : (t.find q).isSome) : (t.find path).isSome := by
  obtain ⟨below, rfl⟩ := hsuffix
  induction below with
  | nil => exact h
  | cons name below ih => exact ih (t.parent name _ h)

@[simp]
theorem find_map (t : PathTree ν α) (f : List ν → α → α) (path : List ν) :
    (t.map f).find path = (t.find path).map (f path) := rfl

@[simp]
theorem find_single_cons (a : α) (name : ν) (path : List ν) : (single a).find (name :: path) = none := rfl

@[simp]
theorem find_single_nil (a : α) : (single a : PathTree ν α).find [] = some a := rfl

variable [DecidableEq ν]

/-- Change the value at one path. -/
def modify (t : PathTree ν α) (path : List ν) (f : α → α) : PathTree ν α :=
  t.map fun q a => if q = path then f a else a

/-- A new child of a node.  Without its parent, or when there is such a child, the tree stays as it is. -/
def add (t : PathTree ν α) (name : ν) (path : List ν) (a : α) : PathTree ν α :=
  if h : (t.find path).isSome ∧ (t.find (name :: path)).isNone then {
    find := Function.update t.find (name :: path) (some a)
    paths := (name :: path) :: t.paths
    nodup := by
      refine List.nodup_cons.mpr ⟨?_, t.nodup⟩
      rw [t.mem_paths, Option.not_isSome_iff_eq_none]
      exact Option.isNone_iff_eq_none.mp h.2
    mem_paths := by
      intro q
      by_cases hq : q = name :: path
      · simp [hq]
      · rw [Function.update_of_ne hq, ← t.mem_paths, List.mem_cons, or_iff_right hq]
    root := by
      rw [Function.update_of_ne (List.cons_ne_nil name path).symm]
      exact t.root
    parent := by
      intro name' q hq
      by_cases hpath : q = name :: path
      · simp [hpath]
      · rw [Function.update_of_ne hpath]
        by_cases hnew : name' :: q = name :: path
        · rw [(List.cons.inj hnew).2]
          exact h.1
        · rw [Function.update_of_ne hnew] at hq
          exact t.parent name' q hq }
  else t

/-- Cut off what is below a node. -/
def prune (t : PathTree ν α) (path : List ν) : PathTree ν α where
  find q := if path <:+ q ∧ q ≠ path then none else t.find q
  paths := t.paths.filter fun q => ¬(path <:+ q ∧ q ≠ path)
  nodup := t.nodup.filter _
  mem_paths := by
    intro q
    rw [List.mem_filter, t.mem_paths, decide_eq_true_eq]
    split <;> simp_all
  root := by
    have hroot : ¬(path <:+ [] ∧ [] ≠ path) := fun h => h.2 (List.suffix_nil.mp h.1).symm
    rw [if_neg hroot]
    exact t.root
  parent := by
    intro name q h
    split at h
    · cases h
    · rename_i hkept
      have hparent : ¬(path <:+ q ∧ q ≠ path) := by
        rintro ⟨hsuffix, -⟩
        refine hkept ⟨hsuffix.trans (List.suffix_cons name q), ?_⟩
        rintro rfl
        have hle := hsuffix.length_le
        simp at hle
      rw [if_neg hparent]
      exact t.parent name q h

section Find

variable (t : PathTree ν α) {path q : List ν} {f : α → α} {name : ν} {a : α}

theorem find_modify_self : (t.modify path f).find path = (t.find path).map f := by
  simp [modify]

theorem find_modify_of_ne (h : q ≠ path) : (t.modify path f).find q = t.find q := by
  simp [modify, h]

theorem isSome_find_modify : ((t.modify path f).find q).isSome = (t.find q).isSome := by
  simp [modify]

variable {t} in
theorem find_add_self (h : (t.find path).isSome) (hnew : t.find (name :: path) = none) :
    (t.add name path a).find (name :: path) = some a := by
  simp [add, h, hnew]

theorem find_add_of_ne (h : q ≠ name :: path) : (t.add name path a).find q = t.find q := by
  unfold add
  split
  · exact Function.update_of_ne h ..
  · rfl

theorem find_prune_of_not (h : ¬(path <:+ q ∧ q ≠ path)) : (t.prune path).find q = t.find q := if_neg h

theorem find_prune_below (h : path <:+ q ∧ q ≠ path) : (t.prune path).find q = none := if_pos h

theorem find_prune_self : (t.prune path).find path = t.find path := t.find_prune_of_not (by simp)

end Find

end PathTree

end Wormhole.Lib
