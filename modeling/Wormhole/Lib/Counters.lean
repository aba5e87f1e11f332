/-
# Wormhole.Lib.Counters — a log whose entries are numbered key by key.

A counter under each key gives the next entry with this key its number.  `Numbered` says how such a log
looks: under every key the numbers are `nth 0, nth 1, …` in the order of the log, as many as the counter
shows; `nth` is how a counter is written down, which may wrap.  `Numbered.append` is the step lemma of a
machine that takes a number and counts on; `Numbered.nodup` is what numbers are for, a key and a number name
one entry as long as `nth` does not come back.
-/
import Mathlib

namespace Wormhole.Lib.Counters

variable {ε κ ν : Type*} [DecidableEq κ] {nth : ℕ → ν} {key : ε → κ} {number : ε → ν} {count : κ → ℕ}
  {log : List ε}

/-- The numbers under each key are `nth 0, …, nth (count - 1)`, in this order. -/
def Numbered (nth : ℕ → ν) (key : ε → κ) (number : ε → ν) (count : κ → ℕ) (log : List ε) : Prop :=
  ∀ k, (log.filter fun e => key e = k).map number = (List.range (count k)).map nth

namespace Numbered

theorem nil : Numbered nth key number (fun _ => 0) [] := fun _ => rfl

/-- **Step.** The next entry takes the number that its counter shows. -/
theorem append (h : Numbered nth key number count log) {e : ε} (hnumber : number e = nth (count (key e))) :
    Numbered nth key number (Function.update count (key e) (count (key e) + 1)) (log ++ [e]) := by
  intro k
  rw [List.filter_append, List.map_append, h k]
  by_cases hk : key e = k
  · subst hk
    rw [Function.update_self, List.range_succ, List.map_append, List.filter_singleton, decide_eq_true rfl,
      cond_true, List.map_singleton, List.map_singleton, hnumber]
  · rw [Function.update_of_ne (Ne.symm hk), List.filter_singleton, decide_eq_false hk, cond_false, List.map_nil,
      List.append_nil]

/-- As many entries as the counter shows. -/
theorem length (h : Numbered nth key number count log) (k : κ) :
    (log.filter fun e => key e = k).length = count k := by
  have hlength := congrArg List.length (h k)
  rwa [List.length_map, List.length_map, List.length_range] at hlength

theorem number_eq (h : Numbered nth key number count log) {e : ε} (he : e ∈ log) :
    ∃ n < count (key e), number e = nth n := by
  have hmem : number e ∈ (log.filter fun x => key x = key e).map number :=
    List.mem_map_of_mem (List.mem_filter.mpr ⟨he, decide_eq_true rfl⟩)
  rw [h, List.mem_map] at hmem
  obtain ⟨n, hn, hnumber⟩ := hmem
  exact ⟨n, List.mem_range.mp hn, hnumber.symm⟩

/-- **A key and a number name one entry.** -/
theorem nodup [DecidableEq ν] (h : Numbered nth key number count log)
    (hnth : ∀ k, Set.InjOn nth {n | n < count k}) : (log.map fun e => (key e, number e)).Nodup := by
  rw [List.nodup_iff_count_le_one]
  rintro ⟨k, n⟩
  have hnumbers : ((List.range (count k)).map nth).Nodup :=
    List.nodup_range.map_on fun i hi j hj heq => hnth k (List.mem_range.mp hi) (List.mem_range.mp hj) heq
  calc (log.map fun e => (key e, number e)).count (k, n)
      = log.countP fun e => (key e, number e) == (k, n) := by
        rw [List.count, List.countP_map]
        rfl
    _ = (log.filter fun e => key e = k).countP fun e => number e == n := by
        rw [List.countP_filter]
        apply List.countP_congr
        intro e _
        simp [and_comm]
    _ = ((log.filter fun e => key e = k).map number).count n := by
        rw [List.count, List.countP_map]
        rfl
    _ ≤ 1 := by
        rw [h k]
        exact List.nodup_iff_count_le_one.mp hnumbers n

end Numbered

end Wormhole.Lib.Counters
