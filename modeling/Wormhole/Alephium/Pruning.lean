/-
# Wormhole.Alephium.Pruning — how the list of skipped numbers is kept short.

Every call from the base of the window on drops the listed numbers that are more than `distance` behind it
and reports each by an event.  The base has moved only for a number at least 256 beyond it, so the numbers
that stay are fewer than `distance` by 256.  A number that was dropped is too far behind the largest accepted
one from then on: it is not accepted, listed or reported again (`undone_pruned`).
-/
import Mathlib
import Wormhole.Lib.Transition
import Wormhole.Alephium.UndoneSequence
import Wormhole.Alephium.Sequence

namespace Wormhole.Alephium.Sequence

open Wormhole.Lib.Transition Wormhole.Alephium.Vm
open Wormhole.Alephium.UndoneSequence

/-- The state after the window shift that `seq` asks for, if any. -/
def shifted (s : State) (seq : Nat) : Option State := if s.next + 512 ≤ seq then compact s else some s

/-- The numbers reported as removed, in order, when `calls` are made one after another. -/
def reported (distance : Nat) : State → List Nat → List Nat
  | _, [] => []
  | s, seq :: calls =>
    match checkSequence distance s seq with
    | some (s', removed) => removed ++ reported distance s' calls
    | none => reported distance s calls

variable {distance : Nat} {A R us : List Nat} {s s₁ t : State} {seq : Nat} {removed : List Nat}

/-! ## The list is short -/

/-- Listed numbers are below the base, which is at least 256 behind the largest accepted number. -/
theorem Window.length_le (h : Window distance A s) (hasc : Ascending us)
    (hmem : ∀ u, u ∈ us ↔ Pending distance A s.next u) : us.length ≤ distance - 256 := by
  have hsub : us.toFinset ⊆ Finset.Ico (s.next + 256 - distance) s.next := by
    intro u hu
    obtain ⟨hlow, -, hnear⟩ := (hmem u).mp (List.mem_toFinset.mp hu)
    apply Finset.mem_Ico.mpr
    rcases h.moved with h0 | ⟨a, ha, hbase⟩
    · omega
    · have hmax : a ≤ maxAccepted A := maxAccepted_le.mp le_rfl a ha
      omega
  have hcard := Finset.card_le_card hsub
  rw [List.toFinset_card_of_nodup hasc.nodup, Nat.card_Ico] at hcard
  omega

/-! ## What a call removes -/

/-- Pruning, for any distance: an entry so far behind that the addition overflows aborts the call. -/
theorem removeOldUndone_eq_some {current : Nat} {undone : ByteVec} (hasc : Ascending us)
    (hcurrent : current < 2 ^ 64) (h : removeOldUndone distance (encode us) current = some (undone, removed)) :
    undone = encode (us.filter fun u => current ≤ u + distance) ∧
      removed = us.filter fun u => u + distance < current := by
  by_cases hD : distance + 2 ^ 64 ≤ 2 ^ 256
  · rw [removeOldUndone_encode hasc fun u hu => by have := hasc.lt u hu; omega] at h
    obtain ⟨rfl, rfl⟩ := Prod.mk.inj (Option.some.inj h)
    exact ⟨rfl, rfl⟩
  · -- no entry is that far behind
    have hkeep : us.filter (fun u => current ≤ u + distance) = us :=
      List.filter_eq_self.mpr fun u _ => decide_eq_true (by omega)
    have hdrop : us.filter (fun u => u + distance < current) = [] :=
      List.filter_eq_nil_iff.mpr fun u _ => by
        rw [decide_eq_true_eq]
        omega
    rw [hkeep, hdrop]
    cases us with
    | nil =>
      obtain ⟨rfl, rfl⟩ := Prod.mk.inj (Option.some.inj h)
      exact ⟨rfl, rfl⟩
    | cons min us =>
      have hmin := entry_value (hasc.lt min (by simp))
      have hne : encode (min :: us) ≠ [] := by
        rw [ne_eq, encode_eq_nil]
        simp
      rw [removeOldUndone, if_neg hne, Option.bind_eq_bind, first_entry, Option.bind_some, Option.bind_eq_bind,
        hmin, Option.bind_some, removeOldUndoneLoop] at h
      obtain ⟨limit, hlimit, h⟩ := Option.bind_eq_some_iff.mp h
      have hle : ¬current > limit := by
        rw [← (U256.add_eq_some.mp hlimit).2]
        omega
      rw [if_neg hle] at h
      obtain ⟨rfl, rfl⟩ := Prod.mk.inj (Option.some.inj h)
      exact ⟨rfl, rfl⟩

/-- `vs` is the list after the shift to `s₁`. -/
structure ShiftedList (distance : Nat) (A : List Nat) (s s₁ : State) (vs : List Nat) : Prop where
  undone : s₁.undone = encode vs
  ascending : Ascending vs
  base : s.next ≤ s₁.next
  listed : ∀ u ∈ vs, u < s₁.next ∧ u ∉ A
  near : ∀ u ∈ vs, u < s.next → maxAccepted A ≤ u + distance

theorem Window.shiftedList (h : Window distance A s) (hlt : seq < 2 ^ 64) (hshift : shifted s seq = some s₁) :
    ∃ vs, ShiftedList distance A s s₁ vs := by
  obtain ⟨us, hus, hasc, hmem⟩ := h.undone
  unfold shifted at hshift
  split at hshift
  · rename_i hmove
    have hbelow : ∀ u ∈ us, u < s.next := fun u hu => ((hmem u).mp hu).1
    rw [h.compact_eq hus hasc hbelow (by omega)] at hshift
    obtain rfl := Option.some.inj hshift
    refine ⟨_, rfl, h.ascending_skipped hasc hbelow (by omega), Nat.le_add_right _ _, ?_, ?_⟩
    · intro u hu
      show u < s.next + 256 ∧ u ∉ A
      rcases List.mem_append.mp hu with hu | hu
      · obtain ⟨hlow, hnot, -⟩ := (hmem u).mp hu
        exact ⟨by omega, hnot⟩
      · exact (h.mem_skipped.mp hu).2
    · intro u hu hlow
      rcases List.mem_append.mp hu with hu | hu
      · exact ((hmem u).mp hu).2.2
      · have := (h.mem_skipped.mp hu).1
        omega
  · obtain rfl := Option.some.inj hshift
    refine ⟨us, hus, hasc, le_rfl, ?_, ?_⟩
    · intro u hu
      obtain ⟨hlow, hnot, -⟩ := (hmem u).mp hu
      exact ⟨hlow, hnot⟩
    · intro u hu _
      exact ((hmem u).mp hu).2.2

/-- Marking a number touches the maps only. -/
theorem markExecuted_keeps (h : markExecuted s seq = some t) : t.next = s.next ∧ t.undone = s.undone := by
  obtain ⟨seqIndex, -, h⟩ := Option.bind_eq_some_iff.mp h
  dsimp only at h
  split at h
  · obtain ⟨next1, -, h⟩ := Option.bind_eq_some_iff.mp h
    rw [← Option.some.inj h]
    exact ⟨rfl, rfl⟩
  · simp only [Option.bind_eq_bind, Option.bind_eq_some_iff] at h
    obtain ⟨pos, -, next2, -, h⟩ := h
    rw [← Option.some.inj h]
    exact ⟨rfl, rfl⟩

/-- **A call from the base on**: the shift, the pruning and the mark. -/
theorem Window.checkSequence_eq_some (h : Window distance A s) (hlow : s.next ≤ seq) :
    checkSequence distance s seq = some (t, removed) ↔
      ∃ s₁ undone, shifted s seq = some s₁ ∧ U256.add s₁.next 512 ≠ none ∧ seq < s₁.next + 512 ∧
        removeOldUndone distance s₁.undone seq = some (undone, removed) ∧
        markExecuted { s₁ with undone } seq = some t := by
  have hnext := h.next_lt
  have hlimit : U256.add s.next 512 = some (s.next + 512) := U256.add_of_lt (by omega)
  have hcall : checkSequence distance s seq = (shifted s seq).bind fun s₁ =>
      (U256.add s₁.next 512).bind fun limit => (assert (seq < limit)).bind fun _ =>
        (removeOldUndone distance s₁.undone seq).bind fun p =>
          (markExecuted { s₁ with undone := p.1 } seq).bind fun t => some (t, p.2) := by
    rw [checkSequence, if_neg (by omega), shifted]
    simp only [hlimit, Option.bind_eq_bind, Option.bind_some]
    by_cases hmove : s.next + 512 ≤ seq
    · rw [if_pos hmove, if_pos hmove]
      rfl
    · rw [if_neg hmove, if_neg hmove, Option.bind_some, hlimit, Option.bind_some]
      rfl
  simp only [hcall, Option.bind_eq_some_iff]
  constructor
  · rintro ⟨s₁, hshift, limit, hadd, _, hassert, ⟨undone, removed'⟩, hremove, t', hmark, heq⟩
    obtain ⟨rfl, rfl⟩ := Prod.mk.inj (Option.some.inj heq)
    refine ⟨s₁, undone, hshift, by simp [hadd], ?_, hremove, hmark⟩
    have hlt : seq < limit := assert_eq_some.mp hassert
    rwa [← (U256.add_eq_some.mp hadd).2] at hlt
  · rintro ⟨s₁, undone, hshift, hadd, hlt, hremove, hmark⟩
    obtain ⟨limit, hadd⟩ := Option.ne_none_iff_exists'.mp hadd
    refine ⟨s₁, hshift, limit, hadd, (), assert_true ?_, (undone, removed), hremove, t, hmark, rfl⟩
    rwa [← (U256.add_eq_some.mp hadd).2]

/-- **What a call removes and reports.** -/
theorem Window.removes (h : Window distance A s) (hlt : seq < 2 ^ 64) (hlow : s.next ≤ seq)
    (hcall : checkSequence distance s seq = some (t, removed)) :
    ∃ s₁ vs, shifted s seq = some s₁ ∧ ShiftedList distance A s s₁ vs ∧ t.next = s₁.next ∧
      t.undone = encode (vs.filter fun u => seq ≤ u + distance) ∧
      removed = vs.filter fun u => u + distance < seq := by
  obtain ⟨s₁, undone, hshift, -, -, hremove, hmark⟩ := (h.checkSequence_eq_some hlow).mp hcall
  obtain ⟨vs, hvs⟩ := h.shiftedList hlt hshift
  rw [hvs.undone] at hremove
  obtain ⟨rfl, hremoved⟩ := removeOldUndone_eq_some hvs.ascending hlt hremove
  obtain ⟨hnext, hundone⟩ := markExecuted_keeps hmark
  exact ⟨s₁, vs, hshift, hvs, hnext, hundone, hremoved⟩

/-! ## The window, for any distance -/

/-- Distances that no accepted number can exceed are alike. -/
theorem Window.congr_distance {distance' : Nat} (h : Window distance A s) (hD : 2 ^ 64 ≤ distance)
    (hD' : 2 ^ 64 ≤ distance') : Window distance' A s := by
  obtain ⟨us, hus, hasc, hmem⟩ := h.undone
  refine ⟨h.nodup, h.lt, h.dvd, h.moved, h.next1, h.next2, h.below, us, hus, hasc, ?_⟩
  intro u
  have hmax : maxAccepted A ≤ 2 ^ 64 := maxAccepted_le.mpr fun a ha => Nat.le_of_lt (h.lt a ha)
  rw [hmem u]
  unfold Pending
  constructor
  · rintro ⟨hu, hnot, -⟩
    exact ⟨hu, hnot, by omega⟩
  · rintro ⟨hu, hnot, -⟩
    exact ⟨hu, hnot, by omega⟩

/-- A call that succeeds at a distance no number can exceed succeeds alike at `2 ^ 64`. -/
theorem Window.checkSequence_distance (h : Window distance A s) (hD : 2 ^ 64 ≤ distance)
    (hlt : seq < 2 ^ 64) (hcall : checkSequence distance s seq = some (t, removed)) :
    checkSequence (2 ^ 64) s seq = some (t, removed) := by
  by_cases hlow : seq < s.next
  · rw [checkSequence, if_pos hlow] at hcall ⊢
    exact hcall
  · have hlow : s.next ≤ seq := by omega
    obtain ⟨s₁, undone, hshift, hadd, hhigh, hremove, hmark⟩ := (h.checkSequence_eq_some hlow).mp hcall
    obtain ⟨vs, hvs⟩ := h.shiftedList hlt hshift
    have hasc := hvs.ascending
    refine ((h.congr_distance hD le_rfl).checkSequence_eq_some hlow).mpr
      ⟨s₁, undone, hshift, hadd, hhigh, ?_, hmark⟩
    rw [hvs.undone] at hremove ⊢
    obtain ⟨rfl, rfl⟩ := removeOldUndone_eq_some hasc hlt hremove
    rw [removeOldUndone_encode hasc fun u hu => by have := hasc.lt u hu; omega]
    have hkeep : ∀ u ∈ vs, decide (seq ≤ u + 2 ^ 64) = decide (seq ≤ u + distance) := fun u _ =>
      decide_eq_decide.mpr (by omega)
    have hdrop : ∀ u ∈ vs, decide (u + 2 ^ 64 < seq) = decide (u + distance < seq) := fun u _ =>
      decide_eq_decide.mpr (by omega)
    rw [List.filter_congr hkeep, List.filter_congr hdrop]

/-- **Step**, for any distance. -/
theorem Window.step (h : Window distance A s) (hlt : seq < 2 ^ 64)
    (hcall : checkSequence distance s seq = some (t, removed)) : Window distance (A ++ [seq]) t := by
  by_cases hD : distance + 2 ^ 64 ≤ 2 ^ 256
  · apply h.call_some hD hlt
    rw [call, hcall, Option.map_some]
  · have hfar : 2 ^ 64 ≤ distance := by omega
    have hcall' := h.checkSequence_distance hfar hlt hcall
    have hstep := (h.congr_distance hfar le_rfl).call_some (by norm_num) hlt
      (show call (2 ^ 64) s seq = some t by rw [call, hcall', Option.map_some])
    exact hstep.congr_distance le_rfl hfar

/-! ## Removed numbers -/

/-- The window next to the numbers removed so far: each is too far behind to come back. -/
structure Pruned (distance : Nat) (A R : List Nat) (s : State) : Prop where
  window : Window distance A s
  nodup : R.Nodup
  gone : ∀ u ∈ R, u < s.next ∧ u ∉ A ∧ u + distance < maxAccepted A

namespace Pruned

theorem init (distance : Nat) : Pruned distance [] [] State.init :=
  ⟨Window.init distance, List.nodup_nil, by simp⟩

/-- A number below the base: it was listed, and nothing is removed. -/
theorem step_below (h : Pruned distance A R s) (hlt : seq < 2 ^ 64) (hlow : seq < s.next)
    (hcall : checkSequence distance s seq = some (t, removed)) :
    Pruned distance (A ++ [seq]) (R ++ removed) t := by
  have hwindow := h.window.step hlt hcall
  obtain ⟨us, hus, hasc, hmem⟩ := h.window.undone
  rw [checkSequence_below hus hasc hlow] at hcall
  split at hcall
  · rename_i hlisted
    obtain ⟨rfl, rfl⟩ := Prod.mk.inj (Option.some.inj hcall)
    rw [List.append_nil]
    refine ⟨hwindow, h.nodup, ?_⟩
    intro u hu
    obtain ⟨hbase, hnot, hfar⟩ := h.gone u hu
    -- a removed number is not listed
    have hne : u ≠ seq := by
      rintro rfl
      have := ((hmem u).mp hlisted).2.2
      omega
    refine ⟨hbase, ?_, ?_⟩
    · simp [hnot, hne]
    · rw [maxAccepted_concat]
      omega
  · cases hcall

/-- A number from the base on. -/
theorem step_above (h : Pruned distance A R s) (hlt : seq < 2 ^ 64) (hlow : s.next ≤ seq)
    (hcall : checkSequence distance s seq = some (t, removed)) :
    Pruned distance (A ++ [seq]) (R ++ removed) t := by
  obtain ⟨s₁, vs, -, hvs, hnext, -, rfl⟩ := h.window.removes hlt hlow hcall
  have hbase := hvs.base
  refine ⟨h.window.step hlt hcall, ?_, ?_⟩
  · apply List.nodup_append.mpr
    refine ⟨h.nodup, hvs.ascending.nodup.filter _, ?_⟩
    rintro u hu v hv rfl
    obtain ⟨hold, -, hfar⟩ := h.gone u hu
    have := hvs.near u (List.mem_filter.mp hv).1 hold
    omega
  · intro u hu
    rw [hnext, maxAccepted_concat]
    rcases List.mem_append.mp hu with hu | hu
    · obtain ⟨hold, hnot, hfar⟩ := h.gone u hu
      have hne : u ≠ seq := by omega
      exact ⟨by omega, by simp [hnot, hne], by omega⟩
    · obtain ⟨hmem, hfar⟩ := List.mem_filter.mp hu
      obtain ⟨hbelow, hnot⟩ := hvs.listed u hmem
      have hfar := of_decide_eq_true hfar
      have hne : u ≠ seq := by omega
      exact ⟨hbelow, by simp [hnot, hne], by omega⟩

/-- **Run.** -/
theorem run (h : Pruned distance A R s) (calls : List Nat) (hcalls : ∀ seq ∈ calls, seq < 2 ^ 64) :
    Pruned distance (A ++ accepted distance s calls) (R ++ reported distance s calls)
      (attempts (call distance) s calls) := by
  induction calls generalizing A R s with
  | nil => simpa [accepted, reported] using h
  | cons seq calls ih =>
    have hlt : seq < 2 ^ 64 := hcalls seq List.mem_cons_self
    have hrest : ∀ q ∈ calls, q < 2 ^ 64 := fun q hq => hcalls q (List.mem_cons_of_mem _ hq)
    rw [accepted, reported, attempts_cons]
    cases hcall : checkSequence distance s seq with
    | none =>
      have hnone : call distance s seq = none := by rw [call, hcall, Option.map_none]
      rw [attempt_eq_of_none hnone, hnone]
      exact ih h hrest
    | some result =>
      obtain ⟨t, removed⟩ := result
      have hsome : call distance s seq = some t := by rw [call, hcall, Option.map_some]
      have hstep : Pruned distance (A ++ [seq]) (R ++ removed) t := by
        rcases Nat.lt_or_ge seq s.next with hlow | hlow
        · exact h.step_below hlt hlow hcall
        · exact h.step_above hlt hlow hcall
      have hnext := ih hstep hrest
      rw [attempt_eq_of_some hsome, hsome]
      simpa using hnext

end Pruned

/-- **The undone list, at any distance.** After any calls from the initial state, with `A` the numbers accepted
and `R` the numbers reported as removed so far: the list has at most `distance - 256` entries; a call from the
base on that succeeds takes the entries too far behind off the list, as the shift has left it, and reports
each once, in ascending order; no number is reported twice, and none is listed, accepted and reported at
once. -/
theorem undone_pruned (distance : Nat) (calls : List Nat) (hcalls : ∀ seq ∈ calls, seq < 2 ^ 64) (s : State)
    (A R : List Nat) (hs : s = attempts (call distance) State.init calls)
    (hA : A = accepted distance State.init calls) (hR : R = reported distance State.init calls) :
    ∃ us, s.undone = encode us ∧ us.Pairwise (· < ·) ∧ us.length ≤ distance - 256 ∧
      (∀ seq < 2 ^ 64, s.next ≤ seq → ∀ t removed, checkSequence distance s seq = some (t, removed) →
        ∃ s₁ vs, shifted s seq = some s₁ ∧ s₁.undone = encode vs ∧ vs.Pairwise (· < ·) ∧
          t.undone = encode (vs.filter fun u => seq ≤ u + distance) ∧
          removed = (vs.filter fun u => u + distance < seq) ∧ removed.Pairwise (· < ·)) ∧
      R.Nodup ∧ (∀ u ∈ R, u ∉ A) ∧ ∀ u ∈ us, u ∉ A ∧ u ∉ R := by
  have h : Pruned distance A R s := by
    rw [hs, hA, hR]
    exact (Pruned.init distance).run calls hcalls
  obtain ⟨us, hus, hasc, hmem⟩ := h.window.undone
  refine ⟨us, hus, hasc.pairwise, h.window.length_le hasc hmem, ?_, h.nodup, fun u hu => (h.gone u hu).2.1, ?_⟩
  · intro seq hlt hlow t removed hcall
    obtain ⟨s₁, vs, hshift, hvs, -, hundone, hremoved⟩ := h.window.removes hlt hlow hcall
    refine ⟨s₁, vs, hshift, hvs.undone, hvs.ascending.pairwise, hundone, hremoved, ?_⟩
    rw [hremoved]
    exact (hvs.ascending.filter _).pairwise
  · intro u hu
    obtain ⟨-, hnot, hnear⟩ := (hmem u).mp hu
    refine ⟨hnot, ?_⟩
    intro hremoved
    have := (h.gone u hremoved).2.2
    omega

/-- At distance 300 the list has room for 44 numbers after one shift. -/
theorem undone_pruned_300 : ∃ us,
    (attempts (call 300) State.init [0, 512]).undone = encode us ∧ us.length ≤ 44 ∧
      (reported 300 State.init [0, 512]).Nodup := by
  obtain ⟨us, hus, -, hlength, -, hnodup, -⟩ := undone_pruned 300 [0, 512] (by simp) _ _ _ rfl rfl rfl
  exact ⟨us, hus, hlength, hnodup⟩

end Wormhole.Alephium.Sequence
