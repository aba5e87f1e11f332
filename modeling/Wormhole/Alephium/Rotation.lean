/-
# Wormhole.Alephium.Rotation — guardian sets over a run of governance actions.

`updateGuardianSet` moves the current set into the previous slot and writes the set of its VAA into the
current one.  `Rotated` is the whole effect of an executed update; `Timeline` relates the two slots to
the list of all sets that have been current, over any run of the three governance entry points.  A
set that is neither of the last two on that list verifies nothing (`rotation`).

Block times are positive: they count milliseconds since 1970.  At 0 the expiration time 0 of an unknown
set would not have passed.
-/
import Mathlib
import Wormhole.Lib.Bytes
import Wormhole.Lib.Loop
import Wormhole.Lib.Transition
import Wormhole.Alephium.Vm
import Wormhole.Alephium.Sequence
import Wormhole.Alephium.Governance
import Wormhole.Alephium.GuardianQuorum

namespace Wormhole.Alephium.Governance

open Wormhole.Lib.Bytes Wormhole.Lib.Loop Wormhole.Lib.Transition Wormhole.Alephium.Vm

/-! ## The governance entry points -/

/-- `blockTimeStamp!`, in milliseconds since 1970. -/
structure BlockTime where
  ms : Nat
  pos : 0 < ms

inductive Action where
  | updateGuardianSet
  | setMessageFee
  | submitTransferFee
  deriving DecidableEq

/-- A call of a governance entry point, in a block. -/
structure GovernanceCall where
  action : Action
  now : BlockTime
  vaa : ByteVec

section

variable (crypto : Crypto) (distance : Nat)

def execute (s : State) (c : GovernanceCall) : Option State :=
  match c.action with
  | .updateGuardianSet => updateGuardianSet crypto distance s c.now.ms c.vaa
  | .setMessageFee => setMessageFee crypto distance s c.now.ms c.vaa
  | .submitTransferFee => (submitTransferFee crypto distance s c.now.ms c.vaa).map Prod.fst

end

/-! ## Guardian sets -/

structure GuardianSet where
  keys : Fin 19 → ByteVec
  index : Nat
  size : Nat

def State.current (s : State) : GuardianSet :=
  haveI := neZero_two
  ⟨s.guardianSets 1, s.guardianSetIndexes 1, s.guardianSetSizes 1⟩

def State.previous (s : State) : GuardianSet :=
  haveI := neZero_two
  ⟨s.guardianSets 0, s.guardianSetIndexes 0, s.guardianSetSizes 0⟩

/-- The key at a position of a set update; behind the last one stands the filler. -/
def slot (payload : ByteVec) (size : Nat) (i : Fin 19) : ByteVec :=
  if i.val < size then (payload.drop (40 + 20 * i)).take 20 else [0x00]

/-- The payload of a set update: the new index, the number of keys, and the 20-byte keys in order. -/
structure Names (payload : ByteVec) (set : GuardianSet) : Prop where
  action : checkModuleAndAction payload 0 [0x02] = some ()
  index : beNat ((payload.drop 35).take 4) = set.index
  count : beNat ((payload.drop 39).take 1) = set.size
  size : 0 < set.size ∧ set.size ≤ 19
  length : payload.length = 40 + 20 * set.size
  keys : set.keys = slot payload set.size

/-- The VAA carries `payload`, signed under the current set. -/
def Carried (crypto : Crypto) (s : State) (now : Nat) (vaa payload : ByteVec) : Prop :=
  ∃ body msg, parseAndVerifySignatures crypto s now vaa true = some body ∧
    parseBody body = some msg ∧ msg.payload = payload

/-- **What an executed update has done.** -/
structure Rotated (crypto : Crypto) (s s' : State) (now : Nat) (vaa : ByteVec) : Prop where
  index : s'.current.index = s.current.index + 1
  current : ∃ payload, Carried crypto s now vaa payload ∧ Names payload s'.current
  previous : s'.previous = s.current
  expiration : s'.previousGuardianSetExpirationTime = now + 86400000

/-! ## One action -/

section

variable {crypto : Crypto} {distance : Nat} {s s' : State} {now : Nat} {vaa : ByteVec}

theorem verifyGovernanceVAA_eq_some {payload : ByteVec}
    (h : verifyGovernanceVAA crypto distance s now vaa = some (s', payload)) :
    Carried crypto s now vaa payload ∧ ∃ sequence, s' = { s with sequence } := by
  simp only [verifyGovernanceVAA, Option.bind_eq_bind, Option.bind_eq_some_iff, Option.pure_def,
    Option.some_inj, Prod.mk.injEq] at h
  obtain ⟨body, hbody, msg, hmsg, _, -, _, -, ⟨sequence, _⟩, -, rfl, rfl⟩ := h
  exact ⟨⟨body, msg, hbody, hmsg, rfl⟩, sequence, rfl⟩

/-- Only the current set signs governance VAAs. -/
theorem Carried.namedIndex {payload : ByteVec} (h : Carried crypto s now vaa payload) :
    namedIndex vaa = s.guardianSetIndexes 1 := by
  obtain ⟨body, msg, hbody, -, -⟩ := h
  obtain ⟨idx, count, rest, es, hheader, hcheck, -⟩ := parseAndVerifySignatures_eq_some.mp hbody
  rw [hheader.namedIndex]
  exact hcheck rfl

/-- What is signed by the current set depends on the current set only. -/
theorem Carried.congr {payload : ByteVec} (h : Carried crypto s' now vaa payload)
    (hcurrent : s'.current = s.current) : Carried crypto s now vaa payload := by
  obtain ⟨hkeys, hindex, hsize⟩ := GuardianSet.mk.inj hcurrent
  obtain ⟨body, msg, hbody, hmsg, hpayload⟩ := h
  refine ⟨body, msg, ?_, hmsg, hpayload⟩
  obtain ⟨idx, count, rest, es, hheader, hcheck, hcount, hscan, hverified⟩ :=
    parseAndVerifySignatures_eq_some.mp hbody
  have hidx : beNat idx = s'.guardianSetIndexes 1 := hcheck rfl
  have hinfo : getGuardiansInfo s' (beNat idx) = getGuardiansInfo s (beNat idx) := by
    rw [getGuardiansInfo, if_pos hidx, getGuardiansInfo, if_pos (hidx.trans hindex), hkeys, hsize]
  obtain ⟨-, hdeclared, hrecover⟩ := hverified
  rw [hinfo] at hdeclared hrecover
  exact parseAndVerifySignatures_eq_some.mpr ⟨idx, count, rest, es, hheader,
    fun _ => hidx.trans hindex, hcount, hscan, .inl (hidx.trans hindex), hdeclared, hrecover⟩

theorem updatePreviousGuardianSet_eq_some (h : updatePreviousGuardianSet s now = some s') :
    s'.current = s.current ∧ s'.previous = s.current ∧
      s'.previousGuardianSetExpirationTime = now + 86400000 := by
  simp only [updatePreviousGuardianSet, Option.bind_eq_bind, Option.bind_eq_some_iff, Option.pure_def,
    Option.some_inj, U256.add_eq_some] at h
  obtain ⟨_, ⟨-, rfl⟩, rfl⟩ := h
  refine ⟨?_, ?_, rfl⟩
  · simp [State.current]
  · simp [State.current, State.previous]

theorem update_slot {payload : ByteVec} {size : Nat} {keys : Fin 19 → ByteVec} {i : Fin 19}
    (h : ∀ j, j < i → keys j = slot payload size j) (j : Fin 19) (hj : j.val < i.val + 1) :
    Function.update keys i (slot payload size i) j = slot payload size j := by
  by_cases hji : j = i
  · rw [hji, Function.update_self]
  · rw [Function.update_of_ne hji]
    exact h j (lt_of_le_of_ne (Nat.le_of_lt_succ hj) hji)

/-- The reading loop of `updateGuardianSet` fills every slot. -/
theorem readKeys {payload : ByteVec} {size : Nat} {keys₀ keys : Fin 19 → ByteVec} {index : Nat}
    (hsize : size ≤ 19)
    (h : loop 19 (fun i (index, keys) =>
      if i.val < size then do
        let key ← byteVecSlice payload index (index + 20)
        return (index + 20, Function.update keys i key)
      else
        return (index, Function.update keys i [0x00])) (40, keys₀) = some (index, keys)) :
    index = 40 + 20 * size ∧ keys = slot payload size := by
  -- after `k` rounds the first `k` slots are filled
  have hloop := loop_partial
    (fun k (st : Nat × (Fin 19 → ByteVec)) => st.1 = 40 + 20 * min k size ∧
      ∀ i : Fin 19, i.val < k → st.2 i = slot payload size i) h (by simp) ?_
  · rw [Nat.min_eq_right hsize] at hloop
    exact ⟨hloop.1, funext fun i => hloop.2 i i.isLt⟩
  · rintro i ⟨index, keys⟩ st' ⟨hindex, hkeys⟩ hround
    dsimp only at hindex hkeys hround
    split at hround
    · rename_i hi
      simp only [Option.bind_eq_bind, Option.bind_eq_some_iff, Option.pure_def,
        Option.some_inj] at hround
      obtain ⟨key, hkey, rfl⟩ := hround
      rw [Nat.min_eq_left hi.le] at hindex
      have hslot : key = slot payload size i := by
        obtain ⟨-, -, rfl⟩ := slice?_eq_some.mp hkey
        rw [slot, if_pos hi, hindex, Nat.add_sub_cancel_left]
      refine ⟨?_, ?_⟩
      · show index + 20 = 40 + 20 * min (i.val + 1) size
        omega
      · rw [hslot]
        exact update_slot hkeys
    · rename_i hi
      rw [Option.pure_def, Option.some_inj] at hround
      obtain rfl := hround
      have hslot : [0x00] = slot payload size i := by rw [slot, if_neg hi]
      refine ⟨?_, ?_⟩
      · show index = 40 + 20 * min (i.val + 1) size
        omega
      · rw [hslot]
        exact update_slot hkeys

/-- **Step.** An executed update rotates the sets. -/
theorem rotated (h : updateGuardianSet crypto distance s now vaa = some s') :
    Rotated crypto s s' now vaa := by
  rw [updateGuardianSet, Option.bind_eq_bind, Option.bind_eq_some_iff] at h
  obtain ⟨s₁, h₁, h⟩ := h
  obtain ⟨hcurrent, hprevious, hexpiration⟩ := updatePreviousGuardianSet_eq_some h₁
  rw [Option.bind_eq_bind, Option.bind_eq_some_iff] at h
  obtain ⟨⟨s₂, payload⟩, h₂, h⟩ := h
  obtain ⟨hcarried, sequence, rfl⟩ := verifyGovernanceVAA_eq_some h₂
  rw [Option.bind_eq_bind, Option.bind_eq_some_iff] at h
  obtain ⟨_, haction, h⟩ := h
  simp only [Option.bind_eq_bind, Option.bind_eq_some_iff, assert_eq_some, Option.pure_def,
    Option.some_inj] at h
  obtain ⟨_, -, _, -, _, -, idx, hidx, n, hn, _, hnext, cnt, hcnt, size, hsize, _, hrange, ⟨index, keys⟩,
    hloop, _, hlength, rfl⟩ := h
  obtain ⟨-, -, rfl⟩ := slice?_eq_some.mp hidx
  obtain ⟨-, -, rfl⟩ := slice?_eq_some.mp hcnt
  obtain ⟨-, rfl⟩ := u256FromBytes_eq_some.mp hn
  obtain ⟨-, rfl⟩ := u256FromBytes_eq_some.mp hsize
  obtain ⟨hindex, rfl⟩ := readKeys hrange.2 hloop
  obtain ⟨-, hnext⟩ := U256.add_eq_some.mp hnext.symm
  have hindexes := congrArg GuardianSet.index hcurrent
  refine {
    index := hnext.symm.trans (congrArg (· + 1) hindexes)
    current := ⟨payload, hcarried.congr hcurrent, ?_⟩
    previous := hprevious
    expiration := hexpiration }
  exact ⟨haction, rfl, rfl, hrange, hlength.trans hindex, rfl⟩

/-- The other two actions leave the guardian sets alone. -/
structure Untouched (s s' : State) : Prop where
  current : s'.current = s.current
  previous : s'.previous = s.previous
  expiration : s'.previousGuardianSetExpirationTime = s.previousGuardianSetExpirationTime

theorem setMessageFee_eq_some (h : setMessageFee crypto distance s now vaa = some s') :
    (∃ payload, Carried crypto s now vaa payload) ∧ Untouched s s' := by
  simp only [setMessageFee, Option.bind_eq_bind, Option.bind_eq_some_iff, Option.pure_def,
    Option.some_inj] at h
  obtain ⟨⟨_, payload⟩, hverify, _, -, _, -, _, -, _, -, _, -, _, -, _, -, rfl⟩ := h
  obtain ⟨hcarried, sequence, rfl⟩ := verifyGovernanceVAA_eq_some hverify
  exact ⟨⟨payload, hcarried⟩, rfl, rfl, rfl⟩

theorem submitTransferFee_eq_some {transfer : Nat × ByteVec}
    (h : submitTransferFee crypto distance s now vaa = some (s', transfer)) :
    (∃ payload, Carried crypto s now vaa payload) ∧ Untouched s s' := by
  simp only [submitTransferFee, Option.bind_eq_bind, Option.bind_eq_some_iff, Option.pure_def,
    Option.some_inj] at h
  obtain ⟨⟨_, payload⟩, hverify, _, -, _, -, _, -, _, -, _, -, _, -, _, -, _, -, heq⟩ := h
  obtain rfl := congrArg Prod.fst heq
  obtain ⟨hcarried, sequence, rfl⟩ := verifyGovernanceVAA_eq_some hverify
  exact ⟨⟨payload, hcarried⟩, rfl, rfl, rfl⟩

/-- **What a governance action does to the sets.** -/
theorem execute_cases {c : GovernanceCall} (h : execute crypto distance s c = some s') :
    (∃ payload, Carried crypto s c.now.ms c.vaa payload) ∧
      (c.action = .updateGuardianSet ∧ Rotated crypto s s' c.now.ms c.vaa ∨
        c.action ≠ .updateGuardianSet ∧ Untouched s s') := by
  unfold execute at h
  split at h
  · rename_i haction
    have hrotated := rotated h
    obtain ⟨payload, hcarried, -⟩ := hrotated.current
    exact ⟨⟨payload, hcarried⟩, .inl ⟨haction, hrotated⟩⟩
  · rename_i haction
    obtain ⟨hcarried, huntouched⟩ := setMessageFee_eq_some h
    exact ⟨hcarried, .inr ⟨by rw [haction]; decide, huntouched⟩⟩
  · rename_i haction
    obtain ⟨⟨_, transfer⟩, htransfer, rfl⟩ := Option.map_eq_some_iff.mp h
    obtain ⟨hcarried, huntouched⟩ := submitTransferFee_eq_some htransfer
    exact ⟨hcarried, .inr ⟨by rw [haction]; decide, huntouched⟩⟩

/-! ## What is accepted -/

/-- The index names the current set, or the previous one before it expires. -/
def Live (s : State) (now index : Nat) : Prop :=
  index = s.current.index ∨ index = s.previous.index ∧ now ≤ s.previousGuardianSetExpirationTime

/-- `parseAndVerifyVAA` accepts the two live sets only. -/
theorem live_of_parseAndVerifyVAA {now : BlockTime} {msg : Body}
    (h : parseAndVerifyVAA crypto s now.ms vaa = some msg) : Live s now.ms (namedIndex vaa) := by
  obtain ⟨body, hbody, -⟩ := Option.bind_eq_some_iff.mp h
  obtain ⟨idx, count, rest, es, hheader, -, -, -, hverified⟩ := parseAndVerifySignatures_eq_some.mp hbody
  rw [hheader.namedIndex]
  rcases hverified.live with hcurrent | hlive
  · exact .inl hcurrent
  · by_cases hcurrent : beNat idx = s.guardianSetIndexes 1
    · exact .inl hcurrent
    · rw [getGuardiansInfo, if_neg hcurrent] at hlive
      split at hlive
      · rename_i hprevious
        exact .inr ⟨hprevious, hlive⟩
      · exact absurd now.pos (Nat.not_lt.mpr hlive)

end

/-! ## Runs -/

/-- One governance action; the list keeps the sets that have been current. -/
def rotationStep (crypto : Crypto) (distance : Nat) (t : State × List GuardianSet)
    (c : GovernanceCall) : Option (State × List GuardianSet) := do
  let s ← execute crypto distance t.1 c
  return (s, if c.action = .updateGuardianSet then t.2 ++ [s.current] else t.2)

/-- The sets that have been current since `first`, and where the state keeps the last two. -/
structure Timeline (first : GuardianSet) (s : State) (sets : List GuardianSet) : Prop where
  last : ∃ earlier, sets = earlier ++ [s.current] ∧
    ∀ set, earlier.getLast? = some set → s.previous = set
  indices : ∀ (i : Nat) (h : i < sets.length), sets[i].index = first.index + i

section

variable {crypto : Crypto} {distance : Nat} {first : GuardianSet}

theorem Timeline.start (s : State) : Timeline s.current s [s.current] where
  last := ⟨[], rfl, by simp⟩
  indices := by simp

theorem Timeline.step {t t' : State × List GuardianSet} {c : GovernanceCall}
    (h : Timeline first t.1 t.2) (hstep : rotationStep crypto distance t c = some t') :
    Timeline first t'.1 t'.2 := by
  simp only [rotationStep, Option.bind_eq_bind, Option.bind_eq_some_iff, Option.pure_def,
    Option.some_inj] at hstep
  obtain ⟨s, hexecute, rfl⟩ := hstep
  obtain ⟨earlier, hsets, hprevious⟩ := h.last
  rcases (execute_cases hexecute).2 with ⟨haction, hrotated⟩ | ⟨haction, huntouched⟩
  · rw [if_pos haction]
    refine ⟨⟨t.2, rfl, ?_⟩, ?_⟩
    · intro set hset
      rw [hsets, List.getLast?_concat, Option.some_inj] at hset
      exact hrotated.previous.trans hset
    · intro i hi
      have hlength : t.2.length = earlier.length + 1 := by rw [hsets, List.length_append]; rfl
      rcases Nat.lt_or_ge i t.2.length with hold | hnew
      · rw [List.getElem_append_left hold]
        exact h.indices i hold
      · have hlast := h.indices earlier.length (by omega)
        simp only [hsets, List.getElem_concat_length] at hlast
        obtain rfl : i = t.2.length := by
          rw [List.length_append] at hi
          exact Nat.le_antisymm (Nat.le_of_lt_succ hi) hnew
        rw [List.getElem_concat_length rfl, hrotated.index, hlast, hlength]
        rfl
  · rw [if_neg haction]
    refine ⟨⟨earlier, ?_, ?_⟩, h.indices⟩
    · show t.2 = earlier ++ [s.current]
      rw [huntouched.current]
      exact hsets
    · intro set hset
      exact huntouched.previous.trans (hprevious set hset)

/-- **Run.** -/
theorem Timeline.of_run {s₀ : State} {t : State × List GuardianSet}
    (h : Run (rotationStep crypto distance) (fun _ _ => True) (s₀, [s₀.current]) t) :
    Timeline s₀.current t.1 t.2 :=
  h.invariant (I := fun t => Timeline s₀.current t.1 t.2) (fun _ _ _ ht _ hstep => ht.step hstep)
    (Timeline.start s₀)

/-- A set that is not one of the last two on the list is not live. -/
theorem Timeline.retired {s : State} {sets : List GuardianSet} (h : Timeline first s sets)
    {old : GuardianSet} (hold : old ∈ sets.dropLast.dropLast) (now : Nat) :
    ¬Live s now old.index := by
  obtain ⟨earlier, rfl, hprevious⟩ := h.last
  rw [List.dropLast_concat] at hold
  obtain ⟨i, hi, rfl⟩ := List.getElem_of_mem hold
  rw [List.length_dropLast] at hi
  have hindex := h.indices i (by rw [List.length_append]; omega)
  have hcurrent := h.indices earlier.length (by simp)
  have hbefore := h.indices (earlier.length - 1) (by rw [List.length_append]; omega)
  rw [List.getElem_append_left (by omega)] at hindex hbefore
  rw [List.getElem_concat_length rfl] at hcurrent
  have hlast := hprevious earlier[earlier.length - 1] (by rw [List.getLast?_eq_getElem?]; simp)
  rw [List.getElem_dropLast, Live, hindex, hcurrent, hlast, hbefore]
  omega

end

/-- **Rotation.** Over any run of governance actions, an executed update raises the current index by
one, writes the set its VAA names into the current slot and the formerly current one into the previous
slot, to expire a day later; a VAA is accepted under a live set only, a governance VAA under the
current one; and a set that two others have followed never verifies anything again. -/
theorem rotation (crypto : Crypto) (distance : Nat) (s₀ : State) (t : State × List GuardianSet)
    (hrun : Run (rotationStep crypto distance) (fun _ _ => True) (s₀, [s₀.current]) t) :
    (∀ (now : BlockTime) (vaa : ByteVec) (s' : State),
      updateGuardianSet crypto distance t.1 now.ms vaa = some s' →
        Rotated crypto t.1 s' now.ms vaa) ∧
    (∀ (now : BlockTime) (vaa : ByteVec) (msg : Body),
      parseAndVerifyVAA crypto t.1 now.ms vaa = some msg → Live t.1 now.ms (namedIndex vaa)) ∧
    (∀ (c : GovernanceCall) (s' : State), execute crypto distance t.1 c = some s' →
      namedIndex c.vaa = t.1.current.index) ∧
    t.2.getLast? = some t.1.current ∧
    (∀ (i : Nat) (h : i < t.2.length), t.2[i].index = s₀.current.index + i) ∧
    ∀ old ∈ t.2.dropLast.dropLast, ∀ (now : BlockTime) (vaa : ByteVec), namedIndex vaa = old.index →
      parseAndVerifyVAA crypto t.1 now.ms vaa = none ∧
        ∀ action, execute crypto distance t.1 ⟨action, now, vaa⟩ = none := by
  have htimeline := Timeline.of_run hrun
  have hgovern : ∀ (c : GovernanceCall) (s' : State), execute crypto distance t.1 c = some s' →
      namedIndex c.vaa = t.1.current.index := by
    intro c s' h
    obtain ⟨⟨payload, hcarried⟩, -⟩ := execute_cases h
    exact hcarried.namedIndex
  refine ⟨?_, ?_, hgovern, ?_, htimeline.indices, ?_⟩
  · intro now vaa s' h
    exact rotated h
  · intro now vaa msg h
    exact live_of_parseAndVerifyVAA h
  · obtain ⟨earlier, hsets, -⟩ := htimeline.last
    rw [hsets, List.getLast?_concat]
  · intro old hold now vaa hnamed
    have hdead := htimeline.retired hold now.ms
    rw [← hnamed] at hdead
    refine ⟨?_, ?_⟩
    · refine Option.eq_none_iff_forall_ne_some.mpr ?_
      intro msg h
      exact hdead (live_of_parseAndVerifyVAA h)
    · intro action
      refine Option.eq_none_iff_forall_ne_some.mpr ?_
      intro s' h
      exact hdead (.inl (hgovern _ s' h))

/-- The update from set `i` to the next; each set is one guardian, whose key repeats `i + 7`. -/
def sampleUpdate (i : UInt8) : GovernanceCall where
  action := .updateGuardianSet
  now := ⟨5, by decide⟩
  vaa := [0x01, 0x00, 0x00, 0x00, i, 0x01] ++ (0x00 :: List.replicate 65 (i + 7)) ++
    (List.replicate 9 0x00 ++ [0x01] ++ List.replicate 32 0x04 ++ List.replicate 7 0x00 ++ [i, 0x00] ++
      (coreModule ++ [0x02, 0x00, 0x00, 0x00, 0x00, 0x00, i + 1, 0x01] ++ List.replicate 20 (i + 8)))

/-- Two updates: the first set is retired. -/
theorem rotation_sample :
    (attempts (rotationStep Crypto.sample 10) (oneGuardian, [oneGuardian.current])
      [sampleUpdate 0, sampleUpdate 1]).2.length = 3 ∧
    (attempts (rotationStep Crypto.sample 10) (oneGuardian, [oneGuardian.current])
      [sampleUpdate 0, sampleUpdate 1]).2.getLast? =
        some (attempts (rotationStep Crypto.sample 10) (oneGuardian, [oneGuardian.current])
          [sampleUpdate 0, sampleUpdate 1]).1.current :=
  ⟨by decide +kernel, (rotation Crypto.sample 10 oneGuardian _
    (run_attempts (P := fun _ => True) _ [sampleUpdate 0, sampleUpdate 1] fun _ _ => trivial)).2.2.2.1⟩

end Wormhole.Alephium.Governance
