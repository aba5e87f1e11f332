/-
# Wormhole.Alephium.UndoneSequence — the list of skipped sequence numbers.

The contract keeps the sequence numbers that were passed over in one byte vector, eight bytes each,
oldest first.  The first section is the contract (`undone_sequence.ral`); the second says what each
function computes on the byte vector of an ascending list: `add` appends, `addToUndone` appends the
clear bits of a bitmap, `removeOldUndone` drops what is too far behind, and `trySetDone` removes one
number by binary search.

The template variable of the source, `distance`, is a parameter.
-/
import Mathlib
import Wormhole.Lib.Bitmap
import Wormhole.Lib.Loop
import Wormhole.Alephium.Vm

namespace Wormhole.Alephium.UndoneSequence

open Wormhole.Lib.Bytes Wormhole.Lib.Bitmap Wormhole.Lib.Loop Wormhole.Alephium.Vm

/-! ## The contract -/

/-- `add`: append a sequence number, which must exceed the last one. -/
def add (undone : ByteVec) (seq : Nat) : Option ByteVec :=
  if undone = [] then u256To8Byte seq
  else do
    let length := undone.length
    let max ← u256From8Byte (← byteVecSlice undone (← U256.sub length 8) length)
    assert (seq > max)
    return undone ++ (← u256To8Byte seq)

/-- `addSequences`: add `current + index` for the clear bits among the low eight of `bitMap`. -/
def addSequences (undone : ByteVec) (current bitMap : Nat) : Option ByteVec :=
  loop 8 (fun index undone =>
    if (bitMap >>> index.val) &&& 0x01 = 0 then do add undone (← U256.add current index)
    else some undone) undone

/-- `addToUndone`: the bytes of a 256-bit map in turn.  The source counts `index` from 0 in steps of
eight; round `i` is `index = 8 * i`. -/
def addToUndone (undone : ByteVec) (current bitMap : Nat) : Option ByteVec :=
  loop 32 (fun i undone =>
    let index := 8 * i.val
    let value := (bitMap >>> index) &&& 0xff
    if value ≠ 0xff then do addSequences undone (← U256.add current index) value
    else some undone) undone

/-- The loop of `removeOldUndone`, from the oldest entry `min`; `removed` collects the emitted
`SequenceRemoved` events. -/
def removeOldUndoneLoop (distance current : Nat) :
    Nat → ByteVec → Nat → List Nat → Option (ByteVec × List Nat)
  | 0, _, _, _ => none
  | fuel + 1, undone, min, removed => do
    if current > (← U256.add min distance) then
      let seq ← u256From8Byte (← byteVecSlice undone 0 8)
      let undone ← byteVecSlice undone 8 undone.length
      if undone ≠ [] then
        let min ← u256From8Byte (← byteVecSlice undone 0 8)
        removeOldUndoneLoop distance current fuel undone min (removed ++ [seq])
      else
        return (undone, removed ++ [seq])
    else
      return (undone, removed)

/-- `removeOldUndone`: drop the entries more than `distance` behind `current`.  Every round of the
loop shortens the list by one entry, which bounds the rounds. -/
def removeOldUndone (distance : Nat) (undone : ByteVec) (current : Nat) :
    Option (ByteVec × List Nat) :=
  if undone = [] then some (undone, [])
  else do
    let min ← u256From8Byte (← byteVecSlice undone 0 8)
    removeOldUndoneLoop distance current (undone.length / 8 + 1) undone min []

/-- The loop of `trySetDone` on the entries `begin … end'`. -/
def trySetDoneLoop (undone : ByteVec) (seq : Nat) : Nat → Int → Int → Option (ByteVec × Bool)
  | 0, _, _ => none
  | fuel + 1, begin, end' =>
    if begin ≤ end' then do
      let mid := (← I256.add begin end').tdiv 2
      let offset ← u256 (← I256.mul mid 8)
      let midSeq ← u256From8Byte (← byteVecSlice undone offset (offset + 8))
      if seq = midSeq then
        return ((← byteVecSlice undone 0 offset) ++
          (← byteVecSlice undone (offset + 8) undone.length), true)
      else if seq > midSeq then
        trySetDoneLoop undone seq fuel (← I256.add mid 1) end'
      else
        trySetDoneLoop undone seq fuel begin (← I256.sub mid 1)
    else some (undone, false)

/-- `trySetDone`: find `seq` by binary search and cut it out.  Every round shortens the interval of
candidate entries, which bounds the rounds. -/
def trySetDone (undone : ByteVec) (seq : Nat) : Option (ByteVec × Bool) := do
  let end' ← I256.sub (← i256 (undone.length / 8)) 1
  trySetDoneLoop undone seq (undone.length / 8 + 1) 0 end'

/-! ## Ascending lists and their byte vectors -/

/-- What the contract stores: strictly ascending 64-bit numbers. -/
structure Ascending (us : List Nat) : Prop where
  pairwise : us.Pairwise (· < ·)
  lt : ∀ u ∈ us, u < 2 ^ 64

/-- Eight big-endian bytes for each entry. -/
def encode (us : List Nat) : ByteVec := us.flatMap (beBytes 8)

@[simp]
theorem encode_nil : encode [] = [] := rfl

@[simp]
theorem encode_cons (u : Nat) (us : List Nat) : encode (u :: us) = beBytes 8 u ++ encode us := rfl

@[simp]
theorem encode_append (us vs : List Nat) : encode (us ++ vs) = encode us ++ encode vs := by
  simp [encode]

@[simp]
theorem encode_length (us : List Nat) : (encode us).length = 8 * us.length := by
  induction us with
  | nil => rfl
  | cons u us ih =>
    simp only [encode_cons, List.length_append, beBytes_length, ih, List.length_cons]
    omega

theorem encode_eq_nil {us : List Nat} : encode us = [] ↔ us = [] := by
  rw [← List.length_eq_zero_iff, encode_length, ← List.length_eq_zero_iff]
  omega

theorem encode_take (us : List Nat) (k : Nat) (hk : k ≤ us.length) :
    (encode us).take (8 * k) = encode (us.take k) := by
  have hsplit : encode us = encode (us.take k) ++ encode (us.drop k) := by
    rw [← encode_append, List.take_append_drop]
  have hlen : (encode (us.take k)).length = 8 * k := by
    rw [encode_length, List.length_take, Nat.min_eq_left hk]
  rw [hsplit, ← hlen, List.take_left]

theorem encode_drop (us : List Nat) (k : Nat) (hk : k ≤ us.length) :
    (encode us).drop (8 * k) = encode (us.drop k) := by
  have hsplit : encode us = encode (us.take k) ++ encode (us.drop k) := by
    rw [← encode_append, List.take_append_drop]
  have hlen : (encode (us.take k)).length = 8 * k := by
    rw [encode_length, List.length_take, Nat.min_eq_left hk]
  rw [hsplit, ← hlen, List.drop_left]

namespace Ascending

variable {us vs : List Nat} {u : Nat}

theorem nil : Ascending [] := ⟨List.Pairwise.nil, by simp⟩

theorem sublist (h : Ascending us) (hsub : vs.Sublist us) : Ascending vs :=
  ⟨h.pairwise.sublist hsub, fun v hv => h.lt v (hsub.subset hv)⟩

theorem tail (h : Ascending (u :: us)) : Ascending us := h.sublist (List.sublist_cons_self u us)

theorem left (h : Ascending (us ++ vs)) : Ascending us := h.sublist (List.sublist_append_left us vs)

theorem filter (h : Ascending us) (p : Nat → Bool) : Ascending (us.filter p) :=
  h.sublist List.filter_sublist

theorem nodup (h : Ascending us) : us.Nodup := h.pairwise.imp (fun hlt => Nat.ne_of_lt hlt)

/-- Distinct 64-bit numbers: at most `2 ^ 64` of them. -/
theorem length_le (h : Ascending us) : us.length ≤ 2 ^ 64 := by
  have hsub : us.toFinset ⊆ Finset.range (2 ^ 64) := fun v hv =>
    Finset.mem_range.mpr (h.lt v (List.mem_toFinset.mp hv))
  simpa [List.toFinset_card_of_nodup h.nodup] using Finset.card_le_card hsub

theorem getElem_lt_getElem (h : Ascending us) {i j : Nat} (hij : i < j) (hj : j < us.length) :
    us[i] < us[j] :=
  List.pairwise_iff_getElem.mp h.pairwise i j (by omega) hj hij

end Ascending

/-- Entry `k` of a stored list, as the contract reads it. -/
theorem read_entry {us : List Nat} (h : ∀ u ∈ us, u < 2 ^ 64) {k : Nat} (hk : k < us.length) :
    (byteVecSlice (encode us) (8 * k) (8 * k + 8)).bind u256From8Byte = some us[k] := by
  have hsplit : us = us.take k ++ (us[k] :: us.drop (k + 1)) := by
    rw [List.getElem_cons_drop, List.take_append_drop]
  have hslice : byteVecSlice (encode us) (8 * k) (8 * k + 8) = some (beBytes 8 us[k]) := by
    have henc : encode us = encode (us.take k) ++ (beBytes 8 us[k] ++ encode (us.drop (k + 1))) := by
      conv_lhs => rw [hsplit]
      rw [encode_append, encode_cons]
    refine slice?_mid henc ?_ (by rw [beBytes_length])
    rw [encode_length, List.length_take, Nat.min_eq_left (by omega)]
  have hlt : us[k] < 256 ^ 8 := by
    have := h us[k] (List.getElem_mem hk)
    norm_num at this ⊢
    exact this
  rw [hslice, Option.bind_some]
  exact u256FromBytes_beBytes hlt

/-! ## `add` appends -/

/-- The last entry of a nonempty stored list, as `add` reads it. -/
theorem read_last {us : List Nat} (h : ∀ u ∈ us, u < 2 ^ 64) (hne : us ≠ []) :
    (byteVecSlice (encode us) ((encode us).length - 8) (encode us).length).bind u256From8Byte
      = some (us.getLast hne) := by
  have hpos : 0 < us.length := List.length_pos_iff.mpr hne
  have hlast := read_entry h (show us.length - 1 < us.length by omega)
  rw [← List.getLast_eq_getElem hne] at hlast
  rw [← hlast, encode_length]
  congr 2 <;> omega

/-- Everything is below `n` if the last entry is. -/
theorem Ascending.lt_iff_getLast {us : List Nat} (h : Ascending us) {n : Nat} :
    (∀ u ∈ us, u < n) ↔ ∀ last ∈ us.getLast?, last < n := by
  constructor
  · intro hall last hlast
    exact hall last (List.mem_of_getLast? hlast)
  · intro hlast u hu
    have hne : us ≠ [] := List.ne_nil_of_mem hu
    have hle : u ≤ us.getLast hne :=
      h.pairwise.imp Nat.le_of_lt |>.rel_getLast_of_rel_getLast_getLast hu le_rfl
    exact lt_of_le_of_lt hle (hlast _ (List.getLast_mem_getLast? hne))

/-- **`add` on a stored list.** It succeeds exactly on a 64-bit number above every entry. -/
theorem add_encode_eq_some {us : List Nat} (h : Ascending us) {seq : Nat} {t : ByteVec} :
    add (encode us) seq = some t ↔
      (∀ u ∈ us, u < seq) ∧ seq < 2 ^ 64 ∧ encode (us ++ [seq]) = t := by
  have hwrite : ∀ {b}, u256To8Byte seq = some b ↔ seq < 2 ^ 64 ∧ beBytes 8 seq = b := by
    intro b
    exact u256ToBytes_eq_some
  by_cases hne : us = []
  · subst hne
    simp [add, hwrite]
  · have hlast := read_last h.lt hne
    have hlen : 8 ≤ (encode us).length := by
      rw [encode_length]
      have := List.length_pos_iff.mpr hne
      omega
    have hmax : us.getLast hne < seq ↔ ∀ u ∈ us, u < seq := by
      rw [h.lt_iff_getLast, List.getLast?_eq_some_getLast hne]
      simp
    rw [add, if_neg (by rwa [encode_eq_nil])]
    simp only [U256.sub_of_le hlen, Option.bind_eq_bind, Option.bind_some, ← Option.bind_assoc,
      hlast]
    simp [Option.bind_eq_some_iff, hwrite, hmax, encode, and_assoc]

theorem Ascending.concat {us : List Nat} (h : Ascending us) {seq : Nat} (hall : ∀ u ∈ us, u < seq)
    (hseq : seq < 2 ^ 64) : Ascending (us ++ [seq]) := by
  refine ⟨List.pairwise_append.mpr ⟨h.pairwise, List.pairwise_singleton _ _, ?_⟩, ?_⟩
  · intro u hu v hv
    rw [List.mem_singleton.mp hv]
    exact hall u hu
  · intro u hu
    rcases List.mem_append.mp hu with hu | hu
    · exact h.lt u hu
    · rwa [List.mem_singleton.mp hu]

/-- **Adding a list of numbers one by one.** When the whole result is ascending, nothing aborts. -/
theorem foldlM_add {us vs : List Nat} (h : Ascending (us ++ vs)) :
    vs.foldlM add (encode us) = some (encode (us ++ vs)) := by
  induction vs generalizing us with
  | nil => simp
  | cons v vs ih =>
    have hadd : add (encode us) v = some (encode (us ++ [v])) := by
      rw [add_encode_eq_some h.left]
      refine ⟨fun u hu => ?_, h.lt v (by simp), rfl⟩
      exact (List.pairwise_append.mp h.pairwise).2.2 u hu v (by simp)
    rw [List.foldlM_cons, hadd, Option.bind_eq_bind, Option.bind_some]
    have h' : Ascending (us ++ [v] ++ vs) := by simpa using h
    simpa using ih h'

/-! ## `addToUndone` appends the clear bits -/

theorem testBit_byte (m i j : Nat) (hj : j < 8) :
    ((m >>> i) &&& 0xff).testBit j = m.testBit (i + j) := by
  have hmask : (0xff : Nat) = 2 ^ 8 - 1 := rfl
  rw [Nat.testBit_and, hmask, Nat.testBit_two_pow_sub_one, decide_eq_true hj, Bool.and_true,
    Nat.testBit_shiftRight]

/-- The inner loop adds the numbers of the clear bits of one byte. -/
theorem addSequences_eq {current : Nat} (h : current + 8 ≤ 2 ^ 256) (undone : ByteVec)
    (bitMap : Nat) :
    addSequences undone current bitMap =
      ((zeros 8 bitMap).map (current + ·)).foldlM add undone := by
  rw [addSequences, zeros, List.foldlM_map, List.foldlM_filter]
  refine loop_eq_foldlM (fun i u => ?_) undone
  have hbit : (bitMap >>> i.val) &&& 0x01 = 0 ↔ bitMap.testBit i = false := by
    rw [show (0x01 : Nat) = 2 ^ 0 from rfl, and_two_pow_eq_zero, Nat.testBit_shiftRight,
      Nat.add_zero]
  have hadd : U256.add current i = some (current + i) := U256.add_of_lt (by omega)
  cases hb : bitMap.testBit i with
  | false => rw [if_pos (hbit.mpr hb), hadd]; rfl
  | true => rw [if_neg (by rw [hbit, hb]; simp)]; rfl

/-- The clear bits of a 256-bit map, byte by byte. -/
theorem zeros_256 (bitMap : Nat) :
    zeros 256 bitMap =
      (List.range 32).flatMap fun i => (zeros 8 ((bitMap >>> (8 * i)) &&& 0xff)).map (8 * i + ·) := by
  have hrange : List.range 256 =
      (List.range 32).flatMap fun i => (List.range 8).map (8 * i + ·) := range_mul 32 8
  rw [zeros, hrange, List.filter_flatMap]
  congr 1
  funext i
  rw [List.filter_map, zeros]
  congr 1
  apply List.filter_congr
  intro j hj
  rw [Function.comp_apply, testBit_byte _ _ _ (List.mem_range.mp hj)]

/-- **`addToUndone` adds the clear bits of the map**, in ascending order. -/
theorem addToUndone_eq {current : Nat} (h : current + 256 ≤ 2 ^ 256) (undone : ByteVec)
    (bitMap : Nat) :
    addToUndone undone current bitMap =
      ((zeros 256 bitMap).map (current + ·)).foldlM add undone := by
  rw [addToUndone, zeros_256, List.map_flatMap, foldlM_flatMap]
  refine loop_eq_foldlM (fun i u => ?_) undone
  have hadd : U256.add current (8 * i) = some (current + 8 * i) := U256.add_of_lt (by omega)
  have hmap : ((zeros 8 ((bitMap >>> (8 * i.val)) &&& 0xff)).map (8 * i.val + ·)).map (current + ·)
      = (zeros 8 ((bitMap >>> (8 * i.val)) &&& 0xff)).map (current + 8 * i.val + ·) := by
    rw [List.map_map]
    congr 1
    funext j
    simp [Nat.add_assoc]
  rw [hmap, ← addSequences_eq (by omega)]
  by_cases hfull : (bitMap >>> (8 * i.val)) &&& 0xff = 0xff
  · -- no clear bit: the source skips the byte
    have hnone : addSequences u (current + 8 * i.val) 0xff = some u := by
      rw [addSequences_eq (by omega), show (0xff : Nat) = 2 ^ 8 - 1 from rfl, zeros_full]
      rfl
    simp [hfull, hnone]
  · simp [hfull, hadd]

/-! ## Where the clear bits fit -/

theorem Ascending.append {us vs : List Nat} (hus : Ascending us) (hvs : Ascending vs)
    (h : ∀ u ∈ us, ∀ v ∈ vs.head?, u < v) : Ascending (us ++ vs) := by
  constructor
  · refine List.pairwise_append.mpr ⟨hus.pairwise, hvs.pairwise, ?_⟩
    intro u hu v hv
    cases vs with
    | nil => cases hv
    | cons first vs =>
      have hfirst : u < first := h u hu first rfl
      rcases List.mem_cons.mp hv with rfl | hv
      · exact hfirst
      · exact lt_trans hfirst ((List.pairwise_cons.mp hvs.pairwise).1 v hv)
  · intro u hu
    exact (List.mem_append.mp hu).elim (hus.lt u) (hvs.lt u)

/-- **Adding an ascending list** aborts only on its first number. -/
theorem foldlM_add_eq_some {us vs : List Nat} (hus : Ascending us) (hvs : Ascending vs) {t : ByteVec} :
    vs.foldlM add (encode us) = some t ↔
      (∀ u ∈ us, ∀ v ∈ vs.head?, u < v) ∧ encode (us ++ vs) = t := by
  constructor
  · intro h
    have hhead : ∀ u ∈ us, ∀ v ∈ vs.head?, u < v := by
      intro u hu v hv
      cases vs with
      | nil => cases hv
      | cons first vs =>
        obtain rfl := Option.some.inj hv
        obtain ⟨mid, hmid, -⟩ := Option.bind_eq_some_iff.mp (List.foldlM_cons.symm.trans h)
        exact ((add_encode_eq_some hus).mp hmid).1 u hu
    rw [foldlM_add (hus.append hvs hhead)] at h
    exact ⟨hhead, Option.some.inj h⟩
  · rintro ⟨hhead, rfl⟩
    exact foldlM_add (hus.append hvs hhead)

theorem ascending_holes {current : Nat} (h : current + 255 < 2 ^ 64) (bitMap : Nat) :
    Ascending ((zeros 256 bitMap).map (current + ·)) := by
  constructor
  · exact (zeros_pairwise 256 bitMap).map _ fun _ _ hij => Nat.add_lt_add_left hij current
  · intro u hu
    obtain ⟨i, hi, rfl⟩ := List.mem_map.mp hu
    have hlt := (mem_zeros.mp hi).1
    omega

/-- **The clear bits of a map** are appended, in ascending order, unless the last entry is not below the first of
them. -/
theorem addToUndone_holes {us : List Nat} (hus : Ascending us) {current : Nat} (hcurrent : current + 255 < 2 ^ 64)
    (bitMap : Nat) :
    ((addToUndone (encode us) current bitMap).isSome = true ↔
      (∀ i < 256, bitMap.testBit i = true) ∨ us = [] ∨
        ∃ last ∈ us.getLast?, ∃ i < 256, bitMap.testBit i = false ∧ (∀ j < i, bitMap.testBit j = true) ∧
          last < current + i) ∧
    ∀ t, addToUndone (encode us) current bitMap = some t → ∃ holes : List Nat,
      t = encode (us ++ holes) ∧ Ascending (us ++ holes) ∧
        ∀ n, n ∈ holes ↔ ∃ i < 256, bitMap.testBit i = false ∧ n = current + i := by
  have hholes := ascending_holes hcurrent bitMap
  rw [addToUndone_eq (by omega)]
  constructor
  · rw [Option.isSome_iff_exists]
    simp only [foldlM_add_eq_some hus hholes, exists_and_left, exists_eq', and_true, List.head?_map,
      Option.mem_map]
    rw [← zeros_eq_nil]
    constructor
    · intro hall
      rcases hzeros : (zeros 256 bitMap).head? with _ | i
      · exact .inl (List.head?_eq_none_iff.mp hzeros)
      · rcases hlast : us.getLast? with _ | last
        · exact .inr (.inl (List.getLast?_eq_none_iff.mp hlast))
        · obtain ⟨hi, hbit, hbelow⟩ := zeros_head?.mp hzeros
          exact .inr (.inr ⟨last, rfl, i, hi, hbit, hbelow,
            hall last (List.mem_of_getLast? hlast) _ ⟨i, hzeros, rfl⟩⟩)
    · rintro (hnone | rfl | ⟨last, hlast, i, hi, hbit, hbelow, hlt⟩) u hu v ⟨j, hj, rfl⟩
      · rw [hnone] at hj
        cases hj
      · cases hu
      · have heq : (zeros 256 bitMap).head? = some i := zeros_head?.mpr ⟨hi, hbit, hbelow⟩
        obtain rfl : i = j := Option.some.inj (heq.symm.trans hj)
        refine hus.lt_iff_getLast.mpr ?_ u hu
        intro last' hlast'
        obtain rfl : last = last' := Option.some.inj (hlast.symm.trans hlast')
        exact hlt
  · intro t ht
    obtain ⟨hhead, rfl⟩ := (foldlM_add_eq_some hus hholes).mp ht
    refine ⟨_, rfl, hus.append hholes hhead, ?_⟩
    intro n
    simp only [List.mem_map, mem_zeros]
    constructor
    · rintro ⟨i, ⟨hi, hbit⟩, rfl⟩
      exact ⟨i, hi, hbit, rfl⟩
    · rintro ⟨i, hi, hbit, rfl⟩
      exact ⟨i, ⟨hi, hbit⟩, rfl⟩

theorem sampleHoles_added : (addToUndone (encode [3, 7]) 10 (2 ^ 256 - 1 - 2 ^ 5)).isSome = true := by
  have hus : Ascending [3, 7] := ⟨by decide, by decide⟩
  refine (addToUndone_holes hus (by decide) _).1.mpr (.inr (.inr ⟨7, rfl, 5, by decide, ?_, ?_, by decide⟩))
  · decide +kernel
  · decide +kernel

/-! ## `removeOldUndone` drops what is too far behind -/

theorem first_entry (u : Nat) (us : List Nat) :
    byteVecSlice (encode (u :: us)) 0 8 = some (beBytes 8 u) :=
  slice?_mid (show _ = [] ++ (beBytes 8 u ++ encode us) from rfl) rfl (by simp)

theorem rest_entries (u : Nat) (us : List Nat) :
    byteVecSlice (encode (u :: us)) 8 (encode (u :: us)).length = some (encode us) :=
  slice?_suffix (encode_cons u us) (by simp)

theorem entry_value {u : Nat} (hu : u < 2 ^ 64) : u256From8Byte (beBytes 8 u) = some u :=
  u256FromBytes_beBytes (by norm_num at hu ⊢; exact hu)

/-- One round on a nonempty list whose first entry has been read into `min`. -/
theorem removeOldUndoneLoop_round {distance current min fuel : Nat} {us removed : List Nat}
    (h : Ascending (min :: us)) (hD : min + distance < 2 ^ 256) :
    removeOldUndoneLoop distance current (fuel + 1) (encode (min :: us)) min removed =
      if current > min + distance then
        match us with
        | [] => some ([], removed ++ [min])
        | next :: _ => removeOldUndoneLoop distance current fuel (encode us) next (removed ++ [min])
      else some (encode (min :: us), removed) := by
  have hmin := entry_value (h.lt min (by simp))
  simp only [removeOldUndoneLoop, U256.add_of_lt hD, Option.bind_eq_bind, Option.bind_some,
    first_entry, rest_entries, hmin]
  split
  · cases us with
    | nil => rfl
    | cons next us =>
      have hnext := entry_value (h.lt next (by simp))
      rw [if_pos (by rw [ne_eq, encode_eq_nil]; simp), first_entry, Option.bind_some, hnext,
        Option.bind_some]
  · rfl

/-- The loop on a nonempty list whose first entry has been read into `min`. -/
theorem removeOldUndoneLoop_encode {distance current min fuel : Nat} {us removed : List Nat}
    (h : Ascending (min :: us)) (hD : ∀ u ∈ min :: us, u + distance < 2 ^ 256)
    (hfuel : us.length < fuel) :
    removeOldUndoneLoop distance current fuel (encode (min :: us)) min removed =
      some (encode ((min :: us).filter fun u => current ≤ u + distance),
        removed ++ (min :: us).filter fun u => u + distance < current) := by
  induction us generalizing min removed fuel with
  | nil =>
    obtain ⟨fuel, rfl⟩ : ∃ f, fuel = f + 1 := ⟨fuel - 1, by simp at hfuel; omega⟩
    rw [removeOldUndoneLoop_round h (hD min (by simp))]
    split
    · rename_i hold
      simp [hold, Nat.not_le.mpr hold]
    · rename_i hnear
      simp [hnear, Nat.not_lt.mp hnear]
  | cons next us ih =>
    obtain ⟨fuel, rfl⟩ : ∃ f, fuel = f + 1 := ⟨fuel - 1, by omega⟩
    rw [removeOldUndoneLoop_round h (hD min (by simp))]
    split
    · rename_i hold
      dsimp only
      rw [ih h.tail (fun u hu => hD u (List.mem_cons_of_mem _ hu)) (by simpa using hfuel)]
      simp [List.filter_cons (x := min), hold, Nat.not_le.mpr hold]
    · -- the oldest entry is near enough, hence every entry is
      rename_i hhead
      have hnear : ∀ u ∈ min :: next :: us, current ≤ u + distance := by
        intro u hu
        rcases List.mem_cons.mp hu with rfl | hu
        · omega
        · have := (List.pairwise_cons.mp h.pairwise).1 u hu
          omega
      have hkeep : (min :: next :: us).filter (fun u => current ≤ u + distance) = min :: next :: us :=
        List.filter_eq_self.mpr fun u hu => decide_eq_true (hnear u hu)
      have hdone : (min :: next :: us).filter (fun u => u + distance < current) = [] :=
        List.filter_eq_nil_iff.mpr fun u hu => by
          simpa using hnear u hu
      rw [hkeep, hdone, List.append_nil]

/-- **`removeOldUndone` keeps exactly the entries at most `distance` behind `current`** and emits the
others. -/
theorem removeOldUndone_encode {distance current : Nat} {us : List Nat} (h : Ascending us)
    (hD : ∀ u ∈ us, u + distance < 2 ^ 256) :
    removeOldUndone distance (encode us) current =
      some (encode (us.filter fun u => current ≤ u + distance),
        us.filter fun u => u + distance < current) := by
  cases us with
  | nil => simp [removeOldUndone]
  | cons min us =>
    have hmin := entry_value (h.lt min (by simp))
    have hne : encode (min :: us) ≠ [] := by rw [ne_eq, encode_eq_nil]; simp
    have hfuel : us.length < (encode (min :: us)).length / 8 + 1 := by
      rw [encode_length, List.length_cons]
      omega
    rw [removeOldUndone, if_neg hne, Option.bind_eq_bind, first_entry, Option.bind_some,
      Option.bind_eq_bind, hmin, Option.bind_some, removeOldUndoneLoop_encode h hD hfuel,
      List.nil_append]

/-! ## `trySetDone` removes one number -/

/-- The candidates left to the binary search: everything before `begin` is smaller than `seq`,
everything after `end'` is larger. -/
structure Candidates (us : List Nat) (seq : Nat) (begin end' : Int) : Prop where
  nonneg : 0 ≤ begin
  ordered : begin ≤ end' + 1
  inside : end' < us.length
  below : ∀ i (hi : i < us.length), (i : Int) < begin → us[i] < seq
  above : ∀ i (hi : i < us.length), end' < (i : Int) → seq < us[i]

/-- An emptied interval leaves no place for `seq`. -/
theorem Candidates.not_mem {us : List Nat} {seq : Nat} {begin end' : Int}
    (h : Candidates us seq begin end') (hempty : end' < begin) : seq ∉ us := by
  intro hmem
  obtain ⟨i, hi, rfl⟩ := List.mem_iff_getElem.mp hmem
  rcases lt_or_ge (i : Int) begin with hlt | hge
  · exact lt_irrefl _ (h.below i hi hlt)
  · exact lt_irrefl _ (h.above i hi (by omega))

/-- The bytes before entry `k`. -/
theorem entries_before {us : List Nat} {k : Nat} (hk : k < us.length) :
    byteVecSlice (encode us) 0 (8 * k) = some (encode (us.take k)) := by
  rw [byteVecSlice, slice?_eq_some]
  refine ⟨by omega, by rw [encode_length]; omega, ?_⟩
  rw [List.drop_zero, Nat.sub_zero, encode_take us k (by omega)]

/-- The bytes after entry `k`. -/
theorem entries_after {us : List Nat} {k : Nat} (hk : k < us.length) :
    byteVecSlice (encode us) (8 * k + 8) (encode us).length = some (encode (us.drop (k + 1))) := by
  rw [byteVecSlice, slice?_eq_some]
  refine ⟨by rw [encode_length]; omega, le_rfl, ?_⟩
  rw [← encode_drop us (k + 1) (by omega), Nat.mul_succ]
  exact List.take_of_length_le (by simp)

/-- The search succeeds within its rounds; the invariant is `Candidates`. -/
theorem trySetDoneLoop_encode {us : List Nat} (hus : Ascending us) {seq fuel : Nat}
    {begin end' : Int} (h : Candidates us seq begin end') (hfuel : end' - begin + 1 < fuel) :
    trySetDoneLoop (encode us) seq fuel begin end' =
      some (encode (us.erase seq), decide (seq ∈ us)) := by
  have hlen := hus.length_le
  induction fuel generalizing begin end' with
  | zero => exact absurd h.ordered (by omega)
  | succ fuel ih =>
    have hn := h.nonneg
    have hin := h.inside
    by_cases hle : begin ≤ end'
    · obtain ⟨m, hm⟩ : ∃ m : Nat, (m : Int) = (begin + end').tdiv 2 := by
        refine ⟨((begin + end').tdiv 2).toNat, Int.toNat_of_nonneg ?_⟩
        exact Int.tdiv_nonneg (by omega) (by omega)
      rw [Int.tdiv_eq_ediv_of_nonneg (by omega)] at hm
      have hk : m < us.length := by omega
      have hsum : I256.add begin end' = some (begin + end') :=
        I256.checked_of_inRange ⟨by omega, by omega⟩
      have hmul : I256.mul (m : Int) 8 = some ((8 * m : Nat) : Int) := by
        rw [I256.mul, show (m : Int) * 8 = ((8 * m : Nat) : Int) by push_cast; ring]
        exact I256.checked_of_inRange ⟨by omega, by omega⟩
      have hoffset : u256 ((8 * m : Nat) : Int) = some (8 * m) := by
        rw [u256, if_pos (by omega), Int.toNat_natCast]
      have hread := read_entry hus.lt hk
      simp only [Option.bind_eq_some_iff] at hread
      obtain ⟨entry, hentry, hmid⟩ := hread
      rw [trySetDoneLoop, if_pos hle]
      simp only [hsum, Option.bind_eq_bind, Option.bind_some, Int.tdiv_eq_ediv_of_nonneg
        (show 0 ≤ begin + end' by omega), ← hm, hmul, hoffset, hentry, hmid]
      rcases lt_trichotomy seq us[m] with hlt | heq | hgt
      · have hnext : I256.sub (m : Int) 1 = some ((m : Int) - 1) :=
          I256.checked_of_inRange ⟨by omega, by omega⟩
        rw [if_neg (by omega), if_neg (by omega), hnext, Option.bind_some]
        refine ih ⟨hn, by omega, by omega, h.below, fun i hi hmi => ?_⟩ (by omega)
        rcases Nat.lt_or_ge m i with hmi' | hmi'
        · exact lt_trans hlt (hus.getElem_lt_getElem hmi' hi)
        · obtain rfl : i = m := by omega
          exact hlt
      · have hmem : seq ∈ us := heq ▸ List.getElem_mem hk
        have herase : us.erase seq = us.take m ++ us.drop (m + 1) := by
          rw [← List.eraseIdx_eq_take_drop_succ, heq]
          exact hus.nodup.erase_getElem m hk
        rw [if_pos heq, entries_before hk, Option.bind_some, entries_after hk, Option.bind_some,
          herase, encode_append, decide_eq_true hmem, Option.pure_def]
      · have hnext : I256.add (m : Int) 1 = some ((m : Int) + 1) :=
          I256.checked_of_inRange ⟨by omega, by omega⟩
        rw [if_neg (by omega), if_pos hgt, hnext, Option.bind_some]
        refine ih ⟨by omega, by omega, hin, fun i hi hmi => ?_, h.above⟩ (by omega)
        rcases Nat.lt_or_ge i m with hmi' | hmi'
        · exact lt_trans (hus.getElem_lt_getElem hmi' hk) hgt
        · obtain rfl : i = m := by omega
          exact hgt
    · have hnot := h.not_mem (by omega)
      rw [trySetDoneLoop, if_neg hle, List.erase_of_not_mem hnot]
      simp [hnot]

/-- **`trySetDone` removes `seq` if it is listed** and reports whether it was. -/
theorem trySetDone_encode {us : List Nat} (hus : Ascending us) (seq : Nat) :
    trySetDone (encode us) seq = some (encode (us.erase seq), decide (seq ∈ us)) := by
  have hlen := hus.length_le
  have hcount : (encode us).length / 8 = us.length := by
    rw [encode_length]
    omega
  have hend : I256.sub (us.length : Int) 1 = some ((us.length : Int) - 1) :=
    I256.checked_of_inRange ⟨by omega, by omega⟩
  rw [trySetDone, hcount, i256_of_lt (by omega)]
  simp only [Option.bind_eq_bind, Option.bind_some, hend]
  refine trySetDoneLoop_encode hus ⟨le_rfl, by omega, by omega, ?_, ?_⟩ (by push_cast; omega)
  · intro i _ hi
    omega
  · intro i hi hlast
    omega

/-- **The binary search ends** and cuts out the number it was asked for, and nothing else. -/
theorem trySetDone_removes {us : List Nat} (hus : Ascending us) (seq : Nat) :
    ∃ vs found, trySetDone (encode us) seq = some (encode vs, found) ∧ (found = true ↔ seq ∈ us) ∧
      (found = true → ∃ before after, us = before ++ seq :: after ∧ vs = before ++ after ∧ seq ∉ vs) ∧
      (found = false → vs = us) := by
  refine ⟨us.erase seq, decide (seq ∈ us), trySetDone_encode hus seq, decide_eq_true_iff, ?_, ?_⟩
  · intro hfound
    obtain ⟨before, after, -, hus', herase⟩ := List.exists_erase_eq (of_decide_eq_true hfound)
    exact ⟨before, after, hus', herase, hus.nodup.not_mem_erase⟩
  · intro hfound
    exact List.erase_of_not_mem (of_decide_eq_false hfound)

theorem sampleUndone_removed : ∃ vs, trySetDone (encode [10, 11, 20]) 11 = some (encode vs, true) ∧
    ∃ before after, [10, 11, 20] = before ++ 11 :: after ∧ vs = before ++ after ∧ 11 ∉ vs := by
  have hus : Ascending [10, 11, 20] := ⟨by decide, by decide⟩
  obtain ⟨vs, found, h, hfound, hcut, -⟩ := trySetDone_removes hus 11
  obtain rfl := hfound.mpr (by decide)
  exact ⟨vs, h, hcut rfl⟩

end Wormhole.Alephium.UndoneSequence
