/-
# Wormhole.Alephium.Sequence — replay protection over a moving window.

`checkSequence` accepts each sequence number at most once.  Its state is a base `next`, two 256-bit
maps for the 512 numbers from the base on, and the list of numbers below the base that were skipped.
The first section is the contract (`sequence.ral`).  The second states what the state means:
`Window distance A s` says that `s` is the window over the accepted numbers `A`.  The rest shows that
every call keeps the window in step with the accepted numbers, and which calls are accepted.
-/
import Mathlib
import Wormhole.Lib.Bitmap
import Wormhole.Lib.Transition
import Wormhole.Alephium.UndoneSequence

namespace Wormhole.Alephium.Sequence

open Wormhole.Lib.Bitmap Wormhole.Lib.Transition Wormhole.Alephium.Vm
open Wormhole.Alephium.UndoneSequence

/-! ## The contract -/

structure State where
  next : Nat
  next1 : Nat
  next2 : Nat
  undone : ByteVec
  deriving DecidableEq

/-- "sequence started from 0, set `next = 0` when init contract state" -/
def State.init : State := { next := 0, next1 := 0, next2 := 0, undone := [] }

/-- `compact`: move the window on by 256. -/
def compact (s : State) : Option State := do
  let undone ← if s.next1 ≠ U256.max then addToUndone s.undone s.next s.next1 else some s.undone
  let next ← U256.add s.next 256
  return { next, next1 := s.next2, next2 := 0, undone }

/-- `setExecuted`: set one bit of a map, which must be clear. -/
def setExecuted (pos offset current : Nat) : Option Nat := do
  let shift ← U256.mul pos 8
  let value := (current >>> shift) &&& 0xff
  let flag := U256.shl 1 offset
  assert (value &&& flag = 0)
  let executed := value ||| flag
  return current ||| U256.shl executed shift

/-- The end of `checkSequence`: mark `seq` in the map it falls into. -/
def markExecuted (s : State) (seq : Nat) : Option State := do
  let seqIndex ← U256.sub seq s.next
  let pos := seqIndex / 8
  let offset := seqIndex % 8
  if pos < 32 then
    let next1 ← setExecuted pos offset s.next1
    return { s with next1 }
  else
    let next2 ← setExecuted (← U256.sub pos 32) offset s.next2
    return { s with next2 }

/-- `checkSequence`, with the emitted `SequenceRemoved` events. -/
def checkSequence (distance : Nat) (s : State) (seq : Nat) : Option (State × List Nat) :=
  if seq < s.next then do
    let (undone, done) ← trySetDone s.undone seq
    assert (done = true)
    return ({ s with undone }, [])
  else do
    let limit ← U256.add s.next 512
    let s ← if seq ≥ limit then compact s else some s
    let limit ← U256.add s.next 512
    assert (seq < limit)
    let (undone, removed) ← removeOldUndone distance s.undone seq
    let s ← markExecuted { s with undone } seq
    return (s, removed)

/-! ## What the state means -/

/-- The largest accepted number. -/
def maxAccepted (A : List Nat) : Nat := A.foldr max 0

theorem maxAccepted_le {A : List Nat} {n : Nat} : maxAccepted A ≤ n ↔ ∀ a ∈ A, a ≤ n := by
  induction A with
  | nil => simp [maxAccepted]
  | cons a A ih =>
    rw [show maxAccepted (a :: A) = max a (maxAccepted A) from rfl, max_le_iff, ih]
    simp

theorem maxAccepted_concat (A : List Nat) (seq : Nat) :
    maxAccepted (A ++ [seq]) = max (maxAccepted A) seq := by
  induction A with
  | nil => simp [maxAccepted]
  | cons a A ih =>
    rw [List.cons_append, show ∀ B, maxAccepted (a :: B) = max a (maxAccepted B) from fun _ => rfl,
      ih, show maxAccepted (a :: A) = max a (maxAccepted A) from rfl, max_assoc]

/-- A skipped number that may still be accepted. -/
def Pending (distance : Nat) (A : List Nat) (next u : Nat) : Prop :=
  u < next ∧ u ∉ A ∧ maxAccepted A ≤ u + distance

/-- **The window invariant.** `s` represents the accepted numbers `A`. -/
structure Window (distance : Nat) (A : List Nat) (s : State) : Prop where
  nodup : A.Nodup
  lt : ∀ a ∈ A, a < 2 ^ 64
  dvd : 256 ∣ s.next
  /-- The base moves only to make room for a number beyond the next 256. -/
  moved : s.next = 0 ∨ ∃ a ∈ A, s.next + 256 ≤ a
  next1 : IsBitmap 256 s.next1 {i | s.next + i ∈ A}
  next2 : IsBitmap 256 s.next2 {i | s.next + 256 + i ∈ A}
  below : ∀ a ∈ A, a < s.next + 512
  undone : ∃ us, s.undone = encode us ∧ Ascending us ∧ ∀ u, u ∈ us ↔ Pending distance A s.next u

theorem Window.init (distance : Nat) : Window distance [] State.init where
  nodup := List.nodup_nil
  lt := by simp
  dvd := dvd_zero 256
  moved := .inl rfl
  next1 := IsBitmap.zero (by simp)
  next2 := IsBitmap.zero (by simp)
  below := by simp
  undone := ⟨[], rfl, Ascending.nil, by simp [Pending, State.init]⟩

/-- The calls the window admits. -/
def Acceptable (distance : Nat) (A : List Nat) (next seq : Nat) : Prop :=
  seq ∉ A ∧ (next ≤ seq ∧ seq < next + 768 ∨ seq < next ∧ maxAccepted A ≤ seq + distance)

/-! ## Marking one number -/

theorem shl_one {offset : Nat} (h : offset < 256) : U256.shl 1 offset = 2 ^ offset := by
  have hpow : 2 ^ offset < 2 ^ 256 := Nat.pow_lt_pow_right (by omega) h
  rw [U256.shl, Nat.one_shiftLeft, Nat.mod_eq_of_lt hpow]

/-- Writing a byte back into its place in the map sets the one bit. -/
theorem or_shl_byte (current shift offset : Nat) (hoffset : offset < 8) (hshift : shift + 8 ≤ 256) :
    current ||| U256.shl (((current >>> shift) &&& 0xff) ||| 2 ^ offset) shift
      = current ||| 2 ^ (shift + offset) := by
  apply Nat.eq_of_testBit_eq
  intro j
  rw [U256.shl, Nat.testBit_or, Nat.testBit_or, Nat.testBit_mod_two_pow, Nat.testBit_shiftLeft,
    Nat.testBit_or, Nat.testBit_two_pow, Nat.testBit_two_pow]
  have hmask : (0xff : Nat) = 2 ^ 8 - 1 := rfl
  rw [Nat.testBit_and, hmask, Nat.testBit_two_pow_sub_one, Nat.testBit_shiftRight]
  rcases Nat.lt_or_ge j shift with hj | hj
  · have hne : shift + offset ≠ j := by omega
    simp [Nat.not_le.mpr hj, hne]
  · obtain ⟨k, rfl⟩ : ∃ k, j = shift + k := ⟨j - shift, by omega⟩
    rw [Nat.add_sub_cancel_left]
    by_cases hk : offset = k
    · subst hk
      have hlt : shift + offset < 256 := by omega
      simp [hlt]
    · cases current.testBit (shift + k) <;> simp [hk]

/-- **`setExecuted` sets bit `8 * pos + offset`**, and aborts when it is set already. -/
theorem setExecuted_eq {pos offset : Nat} (current : Nat) (hpos : pos < 32) (hoffset : offset < 8) :
    setExecuted pos offset current =
      if current.testBit (8 * pos + offset) then none
      else some (current ||| 2 ^ (8 * pos + offset)) := by
  have hshift : U256.mul pos 8 = some (8 * pos) := by
    rw [U256.mul, if_pos (by omega), Nat.mul_comm]
  have hbit : ((current >>> (8 * pos)) &&& 0xff) &&& 2 ^ offset = 0 ↔
      current.testBit (8 * pos + offset) = false := by
    rw [and_two_pow_eq_zero, testBit_byte _ _ _ hoffset]
  simp only [setExecuted, hshift, Option.bind_eq_bind, Option.bind_some,
    shl_one (show offset < 256 by omega), or_shl_byte current (8 * pos) offset hoffset (by omega)]
  cases hset : current.testBit (8 * pos + offset) with
  | true => rw [assert_false (by rw [hbit, hset]; simp), Option.bind_none, if_pos rfl]
  | false => rw [assert_true (hbit.mpr hset), Option.bind_some, if_neg (by simp), Option.pure_def]

/-- `markExecuted` on a number covered by one of the two maps. -/
theorem markExecuted_eq {s : State} {seq : Nat} (hlow : s.next ≤ seq) (hhigh : seq < s.next + 512) :
    markExecuted s seq =
      if seq - s.next < 256 then
        if s.next1.testBit (seq - s.next) then none
        else some { s with next1 := s.next1 ||| 2 ^ (seq - s.next) }
      else
        if s.next2.testBit (seq - s.next - 256) then none
        else some { s with next2 := s.next2 ||| 2 ^ (seq - s.next - 256) } := by
  obtain ⟨i, rfl⟩ : ∃ i, seq = s.next + i := ⟨seq - s.next, by omega⟩
  have hdivmod : 8 * (i / 8) + i % 8 = i := Nat.div_add_mod i 8
  simp only [markExecuted, U256.sub_of_le hlow, Option.bind_eq_bind, Option.bind_some,
    Nat.add_sub_cancel_left]
  by_cases hi : i < 256
  · rw [if_pos (by omega), if_pos hi, setExecuted_eq _ (by omega) (by omega), hdivmod]
    split <;> rfl
  · rw [if_neg (by omega), if_neg hi, U256.sub_of_le (by omega), Option.bind_some,
      setExecuted_eq _ (by omega) (by omega), show 8 * (i / 8 - 32) + i % 8 = i - 256 by omega]
    split <;> rfl

/-! ## One call -/

section Call

variable {distance : Nat} {A us : List Nat} {s t : State} {seq : Nat}

theorem nodup_concat (h : A.Nodup) (hfresh : seq ∉ A) : (A ++ [seq]).Nodup := by
  rw [← List.concat_eq_append]
  exact List.Nodup.concat hfresh h

theorem forall_mem_concat {P : Nat → Prop} (h : ∀ a ∈ A, P a) (hseq : P seq) :
    ∀ a ∈ A ++ [seq], P a := by
  intro a ha
  rcases List.mem_append.mp ha with ha | ha
  · exact h a ha
  · exact List.mem_singleton.mp ha ▸ hseq

/-- Accepting a number already passed over takes it off the list and leaves the base. -/
theorem Window.insert_pending (h : Window distance A s) (hasc : Ascending us)
    (hmem : ∀ u, u ∈ us ↔ Pending distance A s.next u) (hseq : seq ∈ us) :
    Window distance (A ++ [seq]) { s with undone := encode (us.erase seq) } := by
  obtain ⟨hlow, hfresh, -⟩ := (hmem seq).mp hseq
  obtain ⟨a, ha, hbase⟩ : ∃ a ∈ A, s.next + 256 ≤ a := by
    rcases h.moved with h0 | h1
    · omega
    · exact h1
  have hmax : maxAccepted (A ++ [seq]) = maxAccepted A := by
    have := maxAccepted_le.mp le_rfl a ha
    rw [maxAccepted_concat]
    omega
  have hbelow : seq < s.next + 512 := by omega
  refine ⟨nodup_concat h.nodup hfresh, forall_mem_concat h.lt (hasc.lt seq hseq), h.dvd,
    .inr ⟨a, List.mem_append_left _ ha, hbase⟩, ?_, ?_, forall_mem_concat h.below hbelow, ?_⟩
  · refine h.next1.congr fun i _ => ?_
    have hne : s.next + i ≠ seq := by omega
    simp [hne]
  · refine h.next2.congr fun i _ => ?_
    have hne : s.next + 256 + i ≠ seq := by omega
    simp [hne]
  · refine ⟨us.erase seq, rfl, hasc.sublist List.erase_sublist, fun u => ?_⟩
    rw [hasc.nodup.mem_erase_iff, hmem u]
    simp only [Pending, hmax, List.mem_append, List.mem_singleton, not_or]
    tauto

/-- The state in which `checkSequence` marks `seq`: the window over `A`, moved on if `seq` asks for
it, with the list already pruned as if `seq` were accepted. -/
structure Opened (distance : Nat) (A : List Nat) (seq : Nat) (s : State) : Prop where
  nodup : A.Nodup
  lt : ∀ a ∈ A, a < 2 ^ 64
  dvd : 256 ∣ s.next
  moved : s.next = 0 ∨ (∃ a ∈ A, s.next + 256 ≤ a) ∨ s.next + 256 ≤ seq
  next1 : IsBitmap 256 s.next1 {i | s.next + i ∈ A}
  next2 : IsBitmap 256 s.next2 {i | s.next + 256 + i ∈ A}
  below : ∀ a ∈ A, a < s.next + 512
  low : s.next ≤ seq
  high : seq < s.next + 512
  undone : ∃ us, s.undone = encode us ∧ Ascending us ∧
    ∀ u, u ∈ us ↔ u < s.next ∧ u ∉ A ∧ max (maxAccepted A) seq ≤ u + distance

/-- Marking a fresh number in the opened window closes it again, now over one number more. -/
theorem Opened.mark (h : Opened distance A seq s) (hlt : seq < 2 ^ 64) (hfresh : seq ∉ A) :
    ∃ t, markExecuted s seq = some t ∧ Window distance (A ++ [seq]) t := by
  have hnodup := nodup_concat h.nodup hfresh
  have hlt' := forall_mem_concat h.lt hlt
  have hbelow := forall_mem_concat h.below h.high
  have hmoved : s.next = 0 ∨ ∃ a ∈ A ++ [seq], s.next + 256 ≤ a := by
    rcases h.moved with h0 | ⟨a, ha, hbase⟩ | hbase
    · exact .inl h0
    · exact .inr ⟨a, List.mem_append_left _ ha, hbase⟩
    · exact .inr ⟨seq, by simp, hbase⟩
  have hundone : ∃ us, s.undone = encode us ∧ Ascending us ∧
      ∀ u, u ∈ us ↔ Pending distance (A ++ [seq]) s.next u := by
    obtain ⟨us, hus, hasc, hmem⟩ := h.undone
    refine ⟨us, hus, hasc, fun u => (hmem u).trans ?_⟩
    have hlow := h.low
    simp only [Pending, maxAccepted_concat, List.mem_append, List.mem_singleton, not_or]
    constructor
    · rintro ⟨hu, hnot, hnear⟩
      exact ⟨hu, ⟨hnot, by omega⟩, hnear⟩
    · rintro ⟨hu, ⟨hnot, -⟩, hnear⟩
      exact ⟨hu, hnot, hnear⟩
  have hlow := h.low
  have hhigh := h.high
  rw [markExecuted_eq hlow hhigh]
  by_cases hfirst : seq - s.next < 256
  · have hclear : ¬s.next1.testBit (seq - s.next) = true := by
      rw [h.next1.testBit_iff _ hfirst]
      simpa [Nat.add_sub_cancel' hlow] using hfresh
    rw [if_pos hfirst, if_neg hclear]
    refine ⟨_, rfl, hnodup, hlt', h.dvd, hmoved, ?_, ?_, hbelow, hundone⟩
    · refine (h.next1.insert hfirst).congr fun i _ => ?_
      have hiff : i = seq - s.next ↔ s.next + i = seq := by omega
      simp [hiff, or_comm]
    · refine h.next2.congr fun i _ => ?_
      have hne : s.next + 256 + i ≠ seq := by omega
      simp [hne]
  · have hsecond : seq - s.next - 256 < 256 := by omega
    have hclear : ¬s.next2.testBit (seq - s.next - 256) = true := by
      rw [h.next2.testBit_iff _ hsecond]
      simpa [show s.next + 256 + (seq - s.next - 256) = seq by omega] using hfresh
    rw [if_neg hfirst, if_neg hclear]
    refine ⟨_, rfl, hnodup, hlt', h.dvd, hmoved, ?_, ?_, hbelow, hundone⟩
    · refine h.next1.congr fun i hi => ?_
      have hne : s.next + i ≠ seq := by omega
      simp [hne]
    · refine (h.next2.insert hsecond).congr fun i _ => ?_
      have hiff : i = seq - s.next - 256 ↔ s.next + 256 + i = seq := by omega
      simp [hiff, or_comm]

/-- A number accepted before is found set. -/
theorem Opened.mark_old (h : Opened distance A seq s) (hold : seq ∈ A) :
    markExecuted s seq = none := by
  have hlow := h.low
  have hhigh := h.high
  rw [markExecuted_eq hlow hhigh]
  split
  · rename_i hfirst
    rw [if_pos]
    rw [h.next1.testBit_iff _ hfirst]
    simpa [Nat.add_sub_cancel' hlow] using hold
  · rw [if_pos]
    rw [h.next2.testBit_iff _ (by omega)]
    simpa [show s.next + 256 + (seq - s.next - 256) = seq by omega] using hold

/-- The list pruned for `seq`, in a window that already covers `seq`. -/
theorem Window.removeOldUndone_eq (h : Window distance A s) (hD : distance + 2 ^ 64 ≤ 2 ^ 256)
    (hlow : s.next ≤ seq) (hhigh : seq < s.next + 512) :
    ∃ undone removed, removeOldUndone distance s.undone seq = some (undone, removed) ∧
      Opened distance A seq { s with undone } := by
  obtain ⟨us, hus, hasc, hmem⟩ := h.undone
  refine ⟨_, _, by
    rw [hus, removeOldUndone_encode hasc fun u hu => by have := hasc.lt u hu; omega], ?_⟩
  refine ⟨h.nodup, h.lt, h.dvd, h.moved.imp_right .inl, h.next1, h.next2, h.below, hlow, hhigh,
    _, rfl, hasc.filter _, fun u => ?_⟩
  rw [List.mem_filter, hmem u, decide_eq_true_eq, Pending, max_le_iff]
  tauto

/-- The numbers passed over when the window moves on. -/
def skipped (s : State) : List Nat := (zeros 256 s.next1).map (s.next + ·)

theorem Window.mem_skipped (h : Window distance A s) {u : Nat} :
    u ∈ skipped s ↔ s.next ≤ u ∧ u < s.next + 256 ∧ u ∉ A := by
  simp only [skipped, List.mem_map, mem_zeros]
  constructor
  · rintro ⟨i, ⟨hi, hclear⟩, rfl⟩
    refine ⟨by omega, by omega, fun hmem => ?_⟩
    have := (h.next1.testBit_iff i hi).mpr hmem
    simp [hclear] at this
  · rintro ⟨hlow, hhigh, hnot⟩
    refine ⟨u - s.next, ⟨by omega, ?_⟩, by omega⟩
    rw [Bool.eq_false_iff, ne_eq, h.next1.testBit_iff _ (by omega)]
    simpa [Nat.add_sub_cancel' hlow] using hnot

/-- Appending the skipped numbers keeps the list ascending. -/
theorem Window.ascending_skipped (h : Window distance A s) (hasc : Ascending us)
    (hmem : ∀ u ∈ us, u < s.next) (hroom : s.next + 256 ≤ 2 ^ 64) :
    Ascending (us ++ skipped s) := by
  refine ⟨List.pairwise_append.mpr ⟨hasc.pairwise, ?_, fun u hu v hv => ?_⟩, fun u hu => ?_⟩
  · exact (zeros_pairwise 256 s.next1).map _ fun i j hij => Nat.add_lt_add_left hij s.next
  · have := hmem u hu
    have := (h.mem_skipped.mp hv).1
    omega
  · rcases List.mem_append.mp hu with hu | hu
    · exact hasc.lt u hu
    · have := (h.mem_skipped.mp hu).2.1
      omega

/-- **`compact`** moves the base by 256, shifts the maps and lists the skipped numbers. -/
theorem Window.compact_eq (h : Window distance A s) (hus : s.undone = encode us) (hasc : Ascending us)
    (hmem : ∀ u ∈ us, u < s.next) (hroom : s.next + 256 ≤ 2 ^ 64) :
    compact s = some { next := s.next + 256, next1 := s.next2, next2 := 0,
                       undone := encode (us ++ skipped s) } := by
  have hadd : addToUndone s.undone s.next s.next1 = some (encode (us ++ skipped s)) := by
    rw [addToUndone_eq (by omega), hus]
    exact foldlM_add (h.ascending_skipped hasc hmem hroom)
  have hbase : U256.add s.next 256 = some (s.next + 256) := U256.add_of_lt (by omega)
  by_cases hfull : s.next1 = U256.max
  · -- nothing was skipped: the source does not scan the map
    have hnone : skipped s = [] := by
      rw [skipped, hfull, U256.max, zeros_full, List.map_nil]
    simp [compact, hfull, hbase, hnone, hus]
  · simp [compact, hfull, hbase, hadd]

/-- The list pruned for a number that made the window move. -/
theorem Window.removeOldUndone_compact (h : Window distance A s) (hasc : Ascending us)
    (hmem : ∀ u, u ∈ us ↔ Pending distance A s.next u)
    (hD : distance + 2 ^ 64 ≤ 2 ^ 256) (hlt : seq < 2 ^ 64) (hlow : s.next + 512 ≤ seq)
    (hhigh : seq < s.next + 768) :
    ∃ undone removed,
      removeOldUndone distance (encode (us ++ skipped s)) seq = some (undone, removed) ∧
      Opened distance A seq { next := s.next + 256, next1 := s.next2, next2 := 0, undone } := by
  have hasc' : Ascending (us ++ skipped s) :=
    h.ascending_skipped hasc (fun u hu => ((hmem u).mp hu).1) (by omega)
  have hmax : maxAccepted A < seq := by
    have : maxAccepted A ≤ s.next + 511 := maxAccepted_le.mpr fun a ha => by
      have := h.below a ha
      omega
    omega
  refine ⟨_, _, removeOldUndone_encode hasc' fun u hu => by have := hasc'.lt u hu; omega, ?_⟩
  refine ⟨h.nodup, h.lt, h.dvd.add (dvd_refl 256), .inr (.inr (by simp only; omega)), h.next2, ?_,
    fun a ha => ?_, by simp only; omega, by simp only; omega, _, rfl, hasc'.filter _, fun u => ?_⟩
  · refine IsBitmap.zero fun i _ hi => ?_
    have : s.next + 256 + 256 + i < s.next + 512 := h.below _ hi
    omega
  · have := h.below a ha
    simp only
    omega
  · rw [List.mem_filter, List.mem_append, hmem u, h.mem_skipped, decide_eq_true_eq, Pending,
      max_le_iff]
    constructor
    · rintro ⟨⟨hu, hnot, -⟩ | ⟨-, hu, hnot⟩, hnear⟩
      · exact ⟨by simp only; omega, hnot, by omega, hnear⟩
      · exact ⟨hu, hnot, by omega, hnear⟩
    · rintro ⟨hu, hnot, hnearA, hnear⟩
      simp only at hu
      rcases Nat.lt_or_ge u s.next with hbelow | hbelow
      · exact ⟨.inl ⟨hbelow, hnot, hnearA⟩, hnear⟩
      · exact ⟨.inr ⟨hbelow, hu, hnot⟩, hnear⟩

/-- The base leaves room for the additions of `checkSequence`. -/
theorem Window.next_lt (h : Window distance A s) : s.next < 2 ^ 64 := by
  rcases h.moved with h0 | ⟨a, ha, hbase⟩
  · omega
  · have := h.lt a ha
    omega

/-- From the base on, `checkSequence` opens the window and marks the number. -/
theorem Window.checkSequence_open (h : Window distance A s) (hD : distance + 2 ^ 64 ≤ 2 ^ 256)
    (hlt : seq < 2 ^ 64) (hlow : s.next ≤ seq) (hhigh : seq < s.next + 768) :
    ∃ t removed, Opened distance A seq t ∧
      checkSequence distance s seq = (markExecuted t seq).map fun t => (t, removed) := by
  have hnext := h.next_lt
  have hlimit : U256.add s.next 512 = some (s.next + 512) := U256.add_of_lt (by omega)
  rw [checkSequence, if_neg (by omega)]
  by_cases hmove : seq ≥ s.next + 512
  · obtain ⟨us, hus, hasc, hmem⟩ := h.undone
    obtain ⟨undone, removed, hremove, hopen⟩ :=
      h.removeOldUndone_compact hasc hmem hD hlt hmove hhigh
    have hcompact := h.compact_eq hus hasc (fun u hu => ((hmem u).mp hu).1) (by omega)
    have hlimit' : U256.add (s.next + 256) 512 = some (s.next + 256 + 512) :=
      U256.add_of_lt (by omega)
    refine ⟨_, removed, hopen, ?_⟩
    simp only [hlimit, Option.bind_eq_bind, Option.bind_some, if_pos hmove, hcompact, hlimit',
      assert_true (show seq < s.next + 256 + 512 by omega), hremove]
    exact Option.map_eq_bind.symm
  · obtain ⟨undone, removed, hremove, hopen⟩ := h.removeOldUndone_eq hD hlow (by omega)
    refine ⟨_, removed, hopen, ?_⟩
    simp only [hlimit, Option.bind_eq_bind, Option.bind_some, if_neg hmove,
      assert_true (show seq < s.next + 512 by omega), hremove]
    exact Option.map_eq_bind.symm

/-- Below the base, `checkSequence` consults the list. -/
theorem checkSequence_below (hus : s.undone = encode us) (hasc : Ascending us)
    (hlow : seq < s.next) :
    checkSequence distance s seq =
      if seq ∈ us then some ({ s with undone := encode (us.erase seq) }, []) else none := by
  rw [checkSequence, if_pos hlow, hus, trySetDone_encode hasc]
  by_cases hmem : seq ∈ us
  · simp [hmem, assert_true]
  · simp [hmem, assert_false]

/-- A number at 768 or more from the base is refused, the window moving by 256 only. -/
theorem Window.checkSequence_far (h : Window distance A s) (hlt : seq < 2 ^ 64)
    (hfar : s.next + 768 ≤ seq) : checkSequence distance s seq = none := by
  obtain ⟨us, hus, hasc, hmem⟩ := h.undone
  have hcompact := h.compact_eq hus hasc (fun u hu => ((hmem u).mp hu).1) (by omega)
  have hlimit : U256.add s.next 512 = some (s.next + 512) := U256.add_of_lt (by omega)
  have hlimit' : U256.add (s.next + 256) 512 = some (s.next + 256 + 512) :=
    U256.add_of_lt (by omega)
  rw [checkSequence, if_neg (by omega)]
  simp only [hlimit, Option.bind_eq_bind, Option.bind_some,
    if_pos (show seq ≥ s.next + 512 by omega), hcompact, hlimit',
    assert_false (show ¬seq < s.next + 256 + 512 by omega), Option.bind_none]

/-- **An acceptable number is accepted**, and the window then counts it. -/
theorem Window.accept (h : Window distance A s) (hD : distance + 2 ^ 64 ≤ 2 ^ 256)
    (hlt : seq < 2 ^ 64) (hok : Acceptable distance A s.next seq) :
    ∃ t removed, checkSequence distance s seq = some (t, removed) ∧
      Window distance (A ++ [seq]) t := by
  obtain ⟨hfresh, ⟨hlow, hhigh⟩ | ⟨hlow, hnear⟩⟩ := hok
  · obtain ⟨t, removed, hopen, heq⟩ := h.checkSequence_open hD hlt hlow hhigh
    obtain ⟨t', hmark, hwindow⟩ := hopen.mark hlt hfresh
    exact ⟨t', removed, by rw [heq, hmark, Option.map_some], hwindow⟩
  · obtain ⟨us, hus, hasc, hmem⟩ := h.undone
    have hlisted : seq ∈ us := (hmem seq).mpr ⟨hlow, hfresh, hnear⟩
    refine ⟨_, [], ?_, h.insert_pending hasc hmem hlisted⟩
    rw [checkSequence_below hus hasc hlow, if_pos hlisted]

/-- **Any other number is refused.** -/
theorem Window.refuse (h : Window distance A s) (hD : distance + 2 ^ 64 ≤ 2 ^ 256)
    (hlt : seq < 2 ^ 64) (hno : ¬Acceptable distance A s.next seq) :
    checkSequence distance s seq = none := by
  rcases Nat.lt_or_ge seq s.next with hlow | hlow
  · obtain ⟨us, hus, hasc, hmem⟩ := h.undone
    rw [checkSequence_below hus hasc hlow, if_neg]
    intro hlisted
    obtain ⟨-, hfresh, hnear⟩ := (hmem seq).mp hlisted
    exact hno ⟨hfresh, .inr ⟨hlow, hnear⟩⟩
  · rcases Nat.lt_or_ge seq (s.next + 768) with hhigh | hfar
    · have hold : seq ∈ A := by
        by_contra hfresh
        exact hno ⟨hfresh, .inl ⟨hlow, hhigh⟩⟩
      obtain ⟨t, removed, hopen, heq⟩ := h.checkSequence_open hD hlt hlow hhigh
      rw [heq, hopen.mark_old hold, Option.map_none]
    · exact h.checkSequence_far hlt hfar

end Call

/-! ## Runs -/

/-- One transaction's call of `checkSequence`. -/
def call (distance : Nat) (s : State) (seq : Nat) : Option State :=
  (checkSequence distance s seq).map Prod.fst

/-- The numbers accepted, in order, when `calls` are made one after another. -/
def accepted (distance : Nat) : State → List Nat → List Nat
  | _, [] => []
  | s, seq :: calls =>
    match call distance s seq with
    | some s' => seq :: accepted distance s' calls
    | none => accepted distance s calls

section Runs

variable {distance : Nat} {A : List Nat} {s t : State} {seq : Nat}

theorem Window.call_isSome (h : Window distance A s) (hD : distance + 2 ^ 64 ≤ 2 ^ 256)
    (hlt : seq < 2 ^ 64) :
    (call distance s seq).isSome ↔ Acceptable distance A s.next seq := by
  by_cases hok : Acceptable distance A s.next seq
  · obtain ⟨t, removed, heq, -⟩ := h.accept hD hlt hok
    simp [call, heq, hok]
  · simp [call, h.refuse hD hlt hok, hok]

/-- **Step.** An accepted call leaves the window over one number more. -/
theorem Window.call_some (h : Window distance A s) (hD : distance + 2 ^ 64 ≤ 2 ^ 256)
    (hlt : seq < 2 ^ 64) (hcall : call distance s seq = some t) :
    Window distance (A ++ [seq]) t := by
  have hok : Acceptable distance A s.next seq := by
    rw [← h.call_isSome hD hlt, hcall, Option.isSome_some]
  obtain ⟨t', removed, heq, hwindow⟩ := h.accept hD hlt hok
  obtain rfl : t' = t := by simpa [call, heq] using hcall
  exact hwindow

/-- **Run.** Any calls, some of them refused, keep the window over the accepted numbers. -/
theorem Window.run (h : Window distance A s) (hD : distance + 2 ^ 64 ≤ 2 ^ 256)
    (calls : List Nat) (hcalls : ∀ seq ∈ calls, seq < 2 ^ 64) :
    Window distance (A ++ accepted distance s calls)
      (attempts (call distance) s calls) := by
  induction calls generalizing A s with
  | nil => simpa [accepted] using h
  | cons seq calls ih =>
    have hrest : ∀ q ∈ calls, q < 2 ^ 64 := fun q hq => hcalls q (List.mem_cons_of_mem _ hq)
    rw [accepted, attempts_cons]
    cases hcall : call distance s seq with
    | none =>
      rw [attempt_eq_of_none hcall]
      exact ih h hrest
    | some t =>
      rw [attempt_eq_of_some hcall]
      have hnext := ih (h.call_some hD (hcalls seq (by simp)) hcall) hrest
      simpa using hnext

end Runs

/-- **The replay window, exactly.** After any calls from the initial state, with `A` the numbers
accepted so far: which call would succeed now, what the two maps and the list hold, and that a failed
call changes nothing. -/
theorem checkSequence_exact (distance : Nat) (hD : distance + 2 ^ 64 ≤ 2 ^ 256) (calls : List Nat)
    (hcalls : ∀ seq ∈ calls, seq < 2 ^ 64) (s : State) (A : List Nat)
    (hs : s = attempts (call distance) State.init calls)
    (hA : A = accepted distance State.init calls) :
    (∀ seq < 2 ^ 64, (call distance s seq).isSome ↔
      seq ∉ A ∧ (s.next ≤ seq ∧ seq < s.next + 768 ∨
        seq < s.next ∧ maxAccepted A ≤ seq + distance)) ∧
    A.Nodup ∧
    256 ∣ s.next ∧
    IsBitmap 256 s.next1 {i | s.next + i ∈ A} ∧
    IsBitmap 256 s.next2 {i | s.next + 256 + i ∈ A} ∧
    (∀ a ∈ A, a < s.next + 512) ∧
    (∃ us : List Nat, s.undone = encode us ∧ us.Pairwise (· < ·) ∧
      ∀ u, u ∈ us ↔ u < s.next ∧ u ∉ A ∧ maxAccepted A ≤ u + distance) ∧
    ∀ seq, call distance s seq = none → attempt (call distance) s seq = s := by
  have h : Window distance A s := by
    rw [hs, hA]
    exact (Window.init distance).run hD calls hcalls
  refine ⟨fun seq hlt => h.call_isSome hD hlt, h.nodup, h.dvd, h.next1, h.next2, h.below, ?_,
    fun seq => attempt_eq_of_none⟩
  obtain ⟨us, hus, hasc, hmem⟩ := h.undone
  exact ⟨us, hus, hasc.pairwise, hmem⟩

/-- At the deployed distance, a repeated call and a window that has moved once. -/
theorem checkSequence_exact_64 :
    (accepted 64 State.init [0, 1, 0, 600]).Nodup ∧
      256 ∣ (attempts (call 64) State.init [0, 1, 0, 600]).next ∧
      ¬(call 64 (attempts (call 64) State.init [0, 1, 0, 600]) 1).isSome := by
  obtain ⟨hcall, hnodup, hdvd, -⟩ := checkSequence_exact 64 (by norm_num) [0, 1, 0, 600] (by simp)
    _ _ rfl rfl
  refine ⟨hnodup, hdvd, ?_⟩
  rw [hcall 1 (by norm_num)]
  have hone : 1 ∈ accepted 64 State.init [0, 1, 0, 600] := by decide +kernel
  exact fun h => h.1 hone

end Wormhole.Alephium.Sequence
