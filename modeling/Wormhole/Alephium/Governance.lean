/-
# Wormhole.Alephium.Governance — guardian sets, VAA parsing and the governance actions.

The core contract of the Alephium side (`governance.ral`).  It keeps the current and the previous
guardian set, checks the signatures of a VAA against them, and executes governance VAAs.  The first
section is the contract; the second says what a successful `parseAndVerifySignatures` has checked
(`parseAndVerifySignatures_eq_some`), in terms of `scan`, the signature section read off the bytes.

`keccak256!` and `ethEcRecover!` are parameters (`Crypto`); the block time is the argument `now`.
Token and ALPH movements are left out: they can only abort a call.
-/
import Mathlib
import Wormhole.Lib.Bytes
import Wormhole.Lib.Loop
import Wormhole.Alephium.Vm
import Wormhole.Alephium.Sequence

namespace Wormhole.Alephium.Governance

open Wormhole.Lib.Bytes Wormhole.Lib.Loop Wormhole.Alephium.Vm

/-! ## The contract -/

/-- The cryptographic built-ins; recovery aborts on a malformed signature. -/
structure Crypto where
  keccak256 : ByteVec → ByteVec
  ethEcRecover : ByteVec → ByteVec → Option ByteVec

structure State where
  chainId : Nat
  governanceChainId : Nat
  governanceContract : ByteVec
  sequence : Sequence.State
  messageFee : Nat
  /-- keep previous and current guardian set -/
  guardianSets : Fin 2 → Fin 19 → ByteVec
  guardianSetIndexes : Fin 2 → Nat
  guardianSetSizes : Fin 2 → Nat
  previousGuardianSetExpirationTime : Nat

/-- The event `WormholeMessage`. -/
structure WormholeMessage where
  sender : ContractId
  sequence : Nat
  data : ByteVec
  consistencyLevel : Nat
  deriving DecidableEq

/-- `publishMessage`: the emitted event; `caller` is `callerContractId!()`. -/
def publishMessage (caller : ContractId) (sequence : Nat) (nonce payload : ByteVec)
    (consistencyLevel : Nat) : WormholeMessage :=
  { sender := caller, sequence, data := nonce ++ payload, consistencyLevel }

/-- What `parseBody` returns. -/
structure Body where
  emitterChainId : Nat
  emitterAddress : ByteVec
  sequence : Nat
  payload : ByteVec
  deriving DecidableEq

def parseBody (body : ByteVec) : Option Body := do
  let _timestamp ← u256From4Byte (← byteVecSlice body 0 4)
  let _nonce ← u256From4Byte (← byteVecSlice body 4 8)
  let emitterChainId ← u256From2Byte (← byteVecSlice body 8 10)
  let emitterAddress ← byteVecSlice body 10 42
  let sequence ← u256From8Byte (← byteVecSlice body 42 50)
  let _consistencyLevel ← u256From1Byte (← byteVecSlice body 50 51)
  let payload ← byteVecSlice body 51 body.length
  return { emitterChainId, emitterAddress, sequence, payload }

/-- `getGuardiansInfo`: the keys, the expiration time and the size of a guardian set. -/
def getGuardiansInfo (s : State) (guardianSetIndex : Nat) : (Fin 19 → ByteVec) × Nat × Nat :=
  if guardianSetIndex = s.guardianSetIndexes 1 then
    (s.guardianSets 1, 0, s.guardianSetSizes 1)
  else if guardianSetIndex = s.guardianSetIndexes 0 then
    (s.guardianSets 0, s.previousGuardianSetExpirationTime, s.guardianSetSizes 0)
  else (fun _ => [0x00], 0, 0)

section Signatures

variable (crypto : Crypto)

def verifySignature (lastGuardianIndex : Int) (signature key hash : ByteVec) : Option Int :=
  if signature = [0x00] then some lastGuardianIndex
  else do
    let guardianIndex ← i256 (← u256From1Byte (← byteVecSlice signature 0 1))
    assert (guardianIndex > lastGuardianIndex)
    let signer ← crypto.ethEcRecover hash (← byteVecSlice signature 1 66)
    assert (key = signer)
    return guardianIndex

def verifySignatures (s : State) (now guardianSetIndex : Nat) (hash : ByteVec)
    (signatures : Fin 19 → ByteVec) (signatureSize : Nat) : Option Unit := do
  let (keys, expirationTime, guardianSize) := getGuardiansInfo s guardianSetIndex
  assert (¬(guardianSetIndex ≠ s.guardianSetIndexes 1 ∧ now > expirationTime))
  -- check signature quorum size
  let quorum ← U256.add ((← U256.mul ((← U256.mul guardianSize 10) / 3) 2) / 10) 1
  assert (quorum ≤ signatureSize)
  let _ ← loop 19 (fun i lastGuardianIndex =>
    verifySignature crypto lastGuardianIndex (signatures i) (keys i) hash) (-1)
  return ()

/-- One round of the parsing loop; the state is `index` and `signatures`. -/
def parseSignature (data : ByteVec) (i : Fin 19) (st : Nat × (Fin 19 → ByteVec)) :
    Option (Nat × (Fin 19 → ByteVec)) := do
  let (index, signatures) := st
  -- 1 byte `guardianIndex` and 65 bytes signature
  if i.val = (← u256From1Byte (← byteVecSlice data index (index + 1))) then
    let signature ← byteVecSlice data index (index + 66)
    return (index + 66, Function.update signatures i signature)
  else
    return (index, signatures)

/-- `parseAndVerifySignatures`: parse VAA and verify signatures, return body. -/
def parseAndVerifySignatures (s : State) (now : Nat) (data : ByteVec)
    (checkGuardianSetIndex : Bool) : Option ByteVec := do
  assert ((← byteVecSlice data 0 1) = [0x01])
  let guardianSetIndex ← u256From4Byte (← byteVecSlice data 1 5)
  assert (checkGuardianSetIndex = true → guardianSetIndex = s.guardianSetIndexes 1)
  let signatureSize ← u256From1Byte (← byteVecSlice data 5 6)
  assert (signatureSize ≤ 19)
  let (index, signatures) ← loop 19 (parseSignature data) (6, fun _ => [0x00])
  let body ← byteVecSlice data index data.length
  let hash := crypto.keccak256 (crypto.keccak256 body)
  verifySignatures crypto s now guardianSetIndex hash signatures signatureSize
  return body

def parseAndVerifyVAA (s : State) (now : Nat) (vaa : ByteVec) : Option Body := do
  let body ← parseAndVerifySignatures crypto s now vaa false
  parseBody body

end Signatures

section Actions

variable (crypto : Crypto) (distance : Nat)

/-- `verifyGovernanceVAA`: the payload of a governance VAA, which consumes its sequence number. -/
def verifyGovernanceVAA (s : State) (now : Nat) (vaa : ByteVec) : Option (State × ByteVec) := do
  let body ← parseAndVerifySignatures crypto s now vaa true
  let msg ← parseBody body
  assert (msg.emitterChainId = s.governanceChainId)
  assert (msg.emitterAddress = s.governanceContract)
  let (sequence, _) ← Sequence.checkSequence distance s.sequence msg.sequence
  return ({ s with sequence }, msg.payload)

/-- The module identifier "Core", left-padded to 32 bytes. -/
def coreModule : ByteVec := List.replicate 28 0x00 ++ [0x43, 0x6f, 0x72, 0x65]

def checkModuleAndAction (payload : ByteVec) (start : Nat) (action : ByteVec) : Option Unit := do
  assert ((← byteVecSlice payload start (start + 32)) = coreModule)
  assert ((← byteVecSlice payload (start + 32) (start + 33)) = action)

/-- `updatePreviousGuardianSet`: expired after one day. -/
def updatePreviousGuardianSet (s : State) (now : Nat) : Option State := do
  let previousGuardianSetExpirationTime ← U256.add now 86400000
  return { s with
    guardianSets := Function.update s.guardianSets 0 (s.guardianSets 1)
    guardianSetIndexes := Function.update s.guardianSetIndexes 0 (s.guardianSetIndexes 1)
    guardianSetSizes := Function.update s.guardianSetSizes 0 (s.guardianSetSizes 1)
    previousGuardianSetExpirationTime }

def updateGuardianSet (s : State) (now : Nat) (vaa : ByteVec) : Option State := do
  let s ← updatePreviousGuardianSet s now
  let (s, payload) ← verifyGovernanceVAA crypto distance s now vaa
  checkModuleAndAction payload 0 [0x02]
  let vaaChainId ← u256From2Byte (← byteVecSlice payload 33 35)
  assert (vaaChainId = s.chainId ∨ vaaChainId = 0)
  let newGuardianSetIndex ← u256From4Byte (← byteVecSlice payload 35 39)
  assert (some newGuardianSetIndex = U256.add (s.guardianSetIndexes 1) 1)
  let newGuardianSetSize ← u256From1Byte (← byteVecSlice payload 39 40)
  assert (newGuardianSetSize > 0 ∧ newGuardianSetSize ≤ 19)
  let (index, keys) ← loop 19 (fun i (index, keys) =>
    if i.val < newGuardianSetSize then do
      let key ← byteVecSlice payload index (index + 20)
      return (index + 20, Function.update keys i key)
    else
      return (index, Function.update keys i [0x00])) (40, s.guardianSets 1)
  assert (payload.length = index)
  return { s with
    guardianSets := Function.update s.guardianSets 1 keys
    guardianSetIndexes := Function.update s.guardianSetIndexes 1 newGuardianSetIndex
    guardianSetSizes := Function.update s.guardianSetSizes 1 newGuardianSetSize }

def setMessageFee (s : State) (now : Nat) (vaa : ByteVec) : Option State := do
  let (s, payload) ← verifyGovernanceVAA crypto distance s now vaa
  checkModuleAndAction payload 0 [0x03]
  let vaaChainId ← u256From2Byte (← byteVecSlice payload 33 35)
  assert (vaaChainId = s.chainId)
  let fee ← u256From32Byte (← byteVecSlice payload 35 67)
  assert (payload.length = 67)
  return { s with messageFee := fee }

/-- `submitTransferFee`, with the amount and the recipient of the transfer it makes. -/
def submitTransferFee (s : State) (now : Nat) (vaa : ByteVec) :
    Option (State × Nat × ByteVec) := do
  let (s, payload) ← verifyGovernanceVAA crypto distance s now vaa
  checkModuleAndAction payload 0 [0x04]
  let vaaChainId ← u256From2Byte (← byteVecSlice payload 33 35)
  assert (vaaChainId = s.chainId ∨ vaaChainId = 0)
  let amount ← u256From32Byte (← byteVecSlice payload 35 67)
  let recipient ← byteVecSlice payload 67 99
  assert (payload.length = 99)
  return (s, amount, recipient)

end Actions

/-! ## The signature section -/

/-- An entry of the signature section: a guardian index and a 65-byte signature. -/
abbrev Entry := Fin 19 × ByteVec

/-- The bytes of an entry. -/
def entryBytes (e : Entry) : ByteVec := UInt8.ofNat e.1 :: e.2

/-- The entries the parsing loop takes when it tries the indices `is` in turn, and the bytes it
leaves; `none` when the bytes run out. -/
def scan : List (Fin 19) → ByteVec → Option (List Entry × ByteVec)
  | [], bs => some ([], bs)
  | _ :: _, [] => none
  | i :: is, b :: bs =>
    if i.val = b.toNat then
      if 65 ≤ bs.length then
        (scan is (bs.drop 65)).map fun (es, rest) => ((i, bs.take 65) :: es, rest)
      else none
    else scan is (b :: bs)

/-- The array of signatures after the loop. -/
def table (es : List Entry) (signatures : Fin 19 → ByteVec) : Fin 19 → ByteVec :=
  es.foldl (fun signatures e => Function.update signatures e.1 (entryBytes e)) signatures

@[simp]
theorem entryBytes_toNat (i : Fin 19) : (UInt8.ofNat i).toNat = i := by
  rw [UInt8.toNat_ofNat']
  omega

/-- What `scan` returns: a split of the bytes into 66-byte entries with increasing indices. -/
structure Scanned (is : List (Fin 19)) (bs : ByteVec) (es : List Entry) (rest : ByteVec) : Prop where
  bytes : bs = es.flatMap entryBytes ++ rest
  length : ∀ e ∈ es, e.2.length = 65
  indices : (es.map Prod.fst).Sublist is

theorem scan_scanned {is : List (Fin 19)} {bs : ByteVec} {es : List Entry} {rest : ByteVec}
    (h : scan is bs = some (es, rest)) : Scanned is bs es rest := by
  induction is generalizing bs es with
  | nil =>
    obtain ⟨rfl, rfl⟩ : [] = es ∧ bs = rest := by simpa [scan] using h
    exact ⟨rfl, by simp, List.Sublist.refl _⟩
  | cons i is ih =>
    cases bs with
    | nil => simp [scan] at h
    | cons b bs =>
      rw [scan] at h
      split at h
      · rename_i hi
        split at h
        · rename_i hlen
          obtain ⟨⟨es', rest'⟩, hscan, hes⟩ := Option.map_eq_some_iff.mp h
          obtain ⟨rfl, rfl⟩ : (i, bs.take 65) :: es' = es ∧ rest' = rest := by simpa using hes
          obtain ⟨hbytes, hlength, hindices⟩ := ih hscan
          refine ⟨?_, ?_, hindices.cons_cons i⟩
          · have hb : UInt8.ofNat i = b := UInt8.toNat_inj.mp (by rw [entryBytes_toNat, hi])
            rw [List.flatMap_cons, List.append_assoc, ← hbytes, entryBytes, hb, List.cons_append,
              List.take_append_drop]
          · intro e he
            rcases List.mem_cons.mp he with rfl | he
            · simpa using hlen
            · exact hlength e he
        · cases h
      · obtain ⟨hbytes, hlength, hindices⟩ := ih h
        exact ⟨hbytes, hlength, hindices.cons i⟩

theorem Scanned.nodup {bs : ByteVec} {es : List Entry} {rest : ByteVec}
    (h : Scanned (List.finRange 19) bs es rest) : (es.map Prod.fst).Nodup :=
  h.indices.nodup (List.nodup_finRange 19)

/-- One round of the parsing loop, on the bytes from `index` on. -/
theorem parseSignature_eq {data : ByteVec} {index : Nat} {b : UInt8} {bs : ByteVec}
    (hdrop : data.drop index = b :: bs) (i : Fin 19) (signatures : Fin 19 → ByteVec) :
    parseSignature data i (index, signatures) =
      if i.val = b.toNat then
        if 65 ≤ bs.length then
          some (index + 66, Function.update signatures i (entryBytes (i, bs.take 65)))
        else none
      else some (index, signatures) := by
  have hlen : data.length = index + bs.length + 1 := by
    have h := congrArg List.length hdrop
    rw [List.length_drop, List.length_cons] at h
    omega
  have hbyte : byteVecSlice data index (index + 1) = some [b] := by
    rw [byteVecSlice, slice?_eq_some]
    exact ⟨by omega, by omega, by rw [hdrop, Nat.add_sub_cancel_left]; rfl⟩
  have hread : u256From1Byte [b] = some b.toNat :=
    u256FromBytes_eq_some.mpr ⟨rfl, beNat_singleton b⟩
  simp only [parseSignature, hbyte, hread, Option.bind_eq_bind, Option.bind_some]
  by_cases hi : i.val = b.toNat
  · have hb : UInt8.ofNat i = b := UInt8.toNat_inj.mp (by rw [entryBytes_toNat, hi])
    rw [if_pos hi, if_pos hi]
    by_cases hroom : 65 ≤ bs.length
    · have hentry : byteVecSlice data index (index + 66) = some (entryBytes (i, bs.take 65)) := by
        rw [byteVecSlice, slice?_eq_some]
        refine ⟨by omega, by omega, ?_⟩
        rw [hdrop, Nat.add_sub_cancel_left, List.take_succ_cons, entryBytes, hb]
      rw [if_pos hroom, hentry, Option.bind_some, Option.pure_def]
    · have hentry : byteVecSlice data index (index + 66) = none := by
        rw [byteVecSlice, slice?, if_neg (by omega)]
      rw [if_neg hroom, hentry, Option.bind_none]
  · rw [if_neg hi, if_neg hi, Option.pure_def]

/-- **The parsing loop reads the signature section.** -/
theorem foldlM_parseSignature {data : ByteVec} (is : List (Fin 19)) {index : Nat}
    (hindex : index ≤ data.length) (signatures : Fin 19 → ByteVec) :
    is.foldlM (fun st i => parseSignature data i st) (index, signatures) =
      (scan is (data.drop index)).map fun (es, rest) =>
        (data.length - rest.length, table es signatures) := by
  induction is generalizing index signatures with
  | nil =>
    have hend : data.length - (data.length - index) = index := by omega
    simp [scan, table, hend]
  | cons i is ih =>
    cases hdrop : data.drop index with
    | nil =>
      have hend : data.length ≤ index := List.drop_eq_nil_iff.mp hdrop
      have hbyte : byteVecSlice data index (index + 1) = none := by
        rw [byteVecSlice, slice?, if_neg (by omega)]
      simp [scan, parseSignature, hbyte]
    | cons b bs =>
      have hlen : data.length = index + bs.length + 1 := by
        have h := congrArg List.length hdrop
        rw [List.length_drop, List.length_cons] at h
        omega
      rw [List.foldlM_cons, parseSignature_eq hdrop, scan]
      by_cases hi : i.val = b.toNat
      · rw [if_pos hi, if_pos hi]
        by_cases hroom : 65 ≤ bs.length
        · have hnext : data.drop (index + 66) = bs.drop 65 := by
            rw [← List.drop_drop, hdrop, List.drop_succ_cons]
          rw [if_pos hroom, if_pos hroom, Option.bind_eq_bind, Option.bind_some, ih (by omega),
            hnext, Option.map_map]
          rfl
        · rw [if_neg hroom, if_neg hroom]
          rfl
      · rw [if_neg hi, if_neg hi, Option.bind_eq_bind, Option.bind_some, ih hindex, hdrop]

/-! ## Which signature arrays verify -/

theorem table_not_mem {es : List Entry} {i : Fin 19} (h : i ∉ es.map Prod.fst)
    (signatures : Fin 19 → ByteVec) : table es signatures i = signatures i := by
  induction es generalizing signatures with
  | nil => rfl
  | cons e es ih =>
    obtain ⟨hne, hrest⟩ : i ≠ e.1 ∧ i ∉ es.map Prod.fst := by simpa using h
    have hstep := ih hrest (Function.update signatures e.1 (entryBytes e))
    rw [Function.update_of_ne hne] at hstep
    exact hstep

theorem table_mem {es : List Entry} (hnodup : (es.map Prod.fst).Nodup) {e : Entry} (he : e ∈ es)
    (signatures : Fin 19 → ByteVec) : table es signatures e.1 = entryBytes e := by
  induction es generalizing signatures with
  | nil => cases he
  | cons e' es ih =>
    obtain ⟨hhead, htail⟩ : e'.1 ∉ es.map Prod.fst ∧ (es.map Prod.fst).Nodup := by
      simpa using hnodup
    rcases List.mem_cons.mp he with rfl | he
    · have hstep := table_not_mem hhead (Function.update signatures e.1 (entryBytes e))
      rw [Function.update_self] at hstep
      exact hstep
    · exact ih htail he _

section Verify

variable {crypto : Crypto} {keys : Fin 19 → ByteVec} {hash : ByteVec}

theorem verifySignature_empty (last : Int) (key : ByteVec) :
    verifySignature crypto last [0x00] key hash = some last := by
  simp [verifySignature]

/-- A parsed signature verifies when its index exceeds the last one and it recovers to the key. -/
theorem verifySignature_entry {last : Int} {e : Entry} (hlen : e.2.length = 65) (key : ByteVec) :
    verifySignature crypto last (entryBytes e) key hash =
      if last < e.1.val ∧ crypto.ethEcRecover hash e.2 = some key then some (e.1.val : Int)
      else none := by
  obtain ⟨i, sig⟩ := e
  have hlen' : sig.length = 65 := hlen
  have hne : entryBytes (i, sig) ≠ [0x00] := by
    intro h
    have := congrArg List.length h
    simp only [entryBytes, List.length_cons, List.length_nil] at this
    omega
  have hbyte : byteVecSlice (entryBytes (i, sig)) 0 1 = some [UInt8.ofNat i] := by
    rw [byteVecSlice, slice?_eq_some]
    exact ⟨by omega, by simp [entryBytes], rfl⟩
  have hread : u256From1Byte [UInt8.ofNat i] = some i.val := by
    refine u256FromBytes_eq_some.mpr ⟨rfl, ?_⟩
    rw [beNat_singleton, entryBytes_toNat]
  have hindex : i256 i.val = some (i.val : Int) := i256_of_lt (by omega)
  have hsig : byteVecSlice (entryBytes (i, sig)) 1 66 = some sig := by
    rw [byteVecSlice, slice?_eq_some]
    refine ⟨by omega, by simp only [entryBytes, List.length_cons]; omega, ?_⟩
    exact List.take_of_length_le hlen.le
  simp only [verifySignature, if_neg hne, hbyte, hread, hindex, hsig, some_bind]
  by_cases hlast : last < i.val
  · rw [assert_true hlast, some_bind]
    cases hrec : crypto.ethEcRecover hash sig with
    | none => simp
    | some signer =>
      by_cases hkey : key = signer
      · simp [hlast, hkey, assert_true]
      · simp [assert_false hkey, Ne.symm hkey]
  · rw [assert_false hlast, if_neg fun h => hlast h.1, none_bind]

/-- **The verification loop** on the array of a scanned section succeeds exactly when every entry
recovers to the key at its index. -/
theorem verify_loop_isSome (crypto : Crypto) (keys : Fin 19 → ByteVec) (hash : ByteVec)
    {es : List Entry} (hnodup : (es.map Prod.fst).Nodup)
    (hlength : ∀ e ∈ es, e.2.length = 65) :
    (loop 19 (fun i last => verifySignature crypto last (table es (fun _ => [0x00]) i) (keys i) hash)
      (-1)).isSome ↔ ∀ e ∈ es, crypto.ethEcRecover hash e.2 = some (keys e.1) := by
  constructor
  · intro hsome e he
    obtain ⟨last, hloop⟩ := Option.isSome_iff_exists.mp hsome
    -- the invariant: the entries at the indices done so far recover to their keys
    refine loop_partial
      (fun k _ => ∀ e ∈ es, e.1.val < k → crypto.ethEcRecover hash e.2 = some (keys e.1))
      hloop (fun e _ hlt => by omega) ?_ e he e.1.isLt
    intro i last last' hdone hround e he hlt
    rcases Nat.lt_or_ge e.1.val i.val with hold | hnew
    · exact hdone e he hold
    · obtain rfl : e.1 = i := Fin.ext (by omega)
      rw [table_mem hnodup he, verifySignature_entry (hlength e he)] at hround
      by_contra hbad
      rw [if_neg fun h => hbad h.2] at hround
      cases hround
  · intro hkeys
    have hround : ∀ (i : Fin 19) (last : Int), last < i.val →
        ∃ last', verifySignature crypto last (table es (fun _ => [0x00]) i) (keys i) hash
          = some last' ∧ last' < (i.val + 1 : Nat) := by
      intro i last hlast
      by_cases hi : i ∈ es.map Prod.fst
      · obtain ⟨e, he, rfl⟩ := List.mem_map.mp hi
        refine ⟨e.1.val, ?_, by push_cast; omega⟩
        rw [table_mem hnodup he, verifySignature_entry (hlength e he), if_pos ⟨hlast, hkeys e he⟩]
      · refine ⟨last, ?_, by push_cast; omega⟩
        rw [table_not_mem hi, verifySignature_empty]
    obtain ⟨last, hloop, -⟩ :=
      loop_total (fun k (last : Int) => last < k) (show (-1 : Int) < (0 : Nat) by omega) hround
    exact Option.isSome_iff_exists.mpr ⟨last, hloop⟩

end Verify

/-- The number of signatures a set of `n` guardians needs. -/
def quorum (n : Nat) : Nat := 2 * n / 3 + 1

/-- The source's rounding is the usual two-thirds quorum. -/
theorem quorum_eq (n : Nat) : n * 10 / 3 * 2 / 10 + 1 = quorum n := by
  unfold quorum
  omega

/-- The checked arithmetic of the quorum test, for a size small enough to pass it. -/
theorem quorum_arith {n signatureSize : Nat} (hsize : signatureSize ≤ 19)
    (hquorum : quorum n ≤ signatureSize) :
    U256.mul n 10 = some (n * 10) ∧ U256.mul (n * 10 / 3) 2 = some (n * 10 / 3 * 2) ∧
      U256.add (n * 10 / 3 * 2 / 10) 1 = some (quorum n) := by
  unfold quorum at *
  refine ⟨?_, ?_, ?_⟩
  · rw [U256.mul_eq_some]
    omega
  · rw [U256.mul_eq_some]
    omega
  · rw [U256.add_eq_some]
    omega

/-- What the signatures have been checked for: the named set is current or not expired, the declared
number reaches the quorum, and every entry recovers to the key at its index. -/
structure Verified (crypto : Crypto) (s : State) (now guardianSetIndex signatureSize : Nat)
    (es : List Entry) (hash : ByteVec) : Prop where
  live : guardianSetIndex = s.guardianSetIndexes 1 ∨ now ≤ (getGuardiansInfo s guardianSetIndex).2.1
  declared : quorum (getGuardiansInfo s guardianSetIndex).2.2 ≤ signatureSize
  recover : ∀ e ∈ es,
    crypto.ethEcRecover hash e.2 = some ((getGuardiansInfo s guardianSetIndex).1 e.1)

theorem verifySignatures_eq_some {crypto : Crypto} {s : State}
    {now guardianSetIndex signatureSize : Nat} {es : List Entry} {hash : ByteVec}
    (hnodup : (es.map Prod.fst).Nodup) (hlength : ∀ e ∈ es, e.2.length = 65)
    (hsize : signatureSize ≤ 19) :
    verifySignatures crypto s now guardianSetIndex hash (table es fun _ => [0x00]) signatureSize
      = some () ↔ Verified crypto s now guardianSetIndex signatureSize es hash := by
  have hloop := verify_loop_isSome crypto (getGuardiansInfo s guardianSetIndex).1 hash hnodup hlength
  rw [verifySignatures]
  constructor
  · intro h
    simp only [Option.bind_eq_bind, Option.bind_eq_some_iff, assert_eq_some, U256.mul_eq_some,
      U256.add_eq_some] at h
    obtain ⟨_, hlive, _, ⟨-, rfl⟩, _, ⟨-, rfl⟩, _, ⟨-, rfl⟩, _, hquorum, _, hlast, -⟩ := h
    refine ⟨?_, ?_, hloop.mp (Option.isSome_iff_exists.mpr ⟨_, hlast⟩)⟩
    · rwa [not_and_or, not_not, not_lt] at hlive
    · rw [← quorum_eq]
      exact hquorum
  · rintro ⟨hlive, hquorum, hkeys⟩
    obtain ⟨hmul, hmul', hadd⟩ := quorum_arith hsize hquorum
    obtain ⟨last, hlast⟩ := Option.isSome_iff_exists.mp (hloop.mpr hkeys)
    have hlive' : ¬(guardianSetIndex ≠ s.guardianSetIndexes 1 ∧
        now > (getGuardiansInfo s guardianSetIndex).2.1) := by
      rwa [not_and_or, not_not, not_lt]
    simp only [assert_true hlive', hmul, hmul', hadd, assert_true hquorum, hlast, some_bind]
    rfl

/-! ## What a successful parse has checked -/

/-- The header of a VAA: version, guardian set index, declared number of signatures. -/
structure Header (data idx : ByteVec) (count : UInt8) (rest : ByteVec) : Prop where
  data_eq : data = 0x01 :: (idx ++ count :: rest)
  length : idx.length = 4

namespace Header

variable {data idx rest : ByteVec} {count : UInt8}

theorem version (h : Header data idx count rest) : byteVecSlice data 0 1 = some [0x01] :=
  slice?_mid (show data = [] ++ ([0x01] ++ (idx ++ count :: rest)) from h.data_eq) rfl rfl

theorem index (h : Header data idx count rest) : byteVecSlice data 1 5 = some idx :=
  slice?_mid (show data = [0x01] ++ (idx ++ count :: rest) from h.data_eq) rfl (by rw [h.length])

theorem declared (h : Header data idx count rest) : byteVecSlice data 5 6 = some [count] :=
  slice?_mid (show data = (0x01 :: idx) ++ ([count] ++ rest) by rw [h.data_eq]; simp)
    (by rw [List.length_cons, h.length]) rfl

theorem drop (h : Header data idx count rest) : data.drop 6 = rest := by
  rw [h.data_eq, show 0x01 :: (idx ++ count :: rest) = (0x01 :: (idx ++ [count])) ++ rest by simp]
  exact List.drop_left' (by simp [h.length])

theorem six_le (h : Header data idx count rest) : 6 ≤ data.length := by
  rw [h.data_eq, List.length_cons, List.length_append, List.length_cons, h.length]
  omega

/-- The three header reads of `parseAndVerifySignatures` give back the header. -/
theorem of_slices {cnt : ByteVec} (hversion : byteVecSlice data 0 1 = some [0x01])
    (hidx : byteVecSlice data 1 5 = some idx) (hcnt : byteVecSlice data 5 6 = some cnt) :
    ∃ count, cnt = [count] ∧ Header data idx count (data.drop 6) := by
  have hlen : idx.length = 4 := slice?_length hidx
  obtain ⟨count, rfl⟩ := List.length_eq_one_iff.mp (slice?_length hcnt)
  refine ⟨count, rfl, ?_, hlen⟩
  obtain ⟨-, hroom, -⟩ := slice?_eq_some.mp hcnt
  have h0 := slice?_split hversion
  have h1 : data.drop 1 = idx ++ data.drop 5 := by
    obtain ⟨-, -, htake⟩ := slice?_eq_some.mp hidx
    rw [← htake, show data.drop 5 = (data.drop 1).drop (5 - 1) by rw [List.drop_drop],
      List.take_append_drop]
  have h5 : data.drop 5 = count :: data.drop 6 := by
    obtain ⟨-, -, htake⟩ := slice?_eq_some.mp hcnt
    rw [show data.drop 6 = (data.drop 5).drop (6 - 5) by rw [List.drop_drop],
      ← List.singleton_append, ← htake, List.take_append_drop]
  rw [h1, h5] at h0
  exact h0

end Header

/-- **What `parseAndVerifySignatures` checks, exactly.** It returns `body` when the input is a header
followed by signature entries and `body`, and the entries verify for the double hash of `body`. -/
theorem parseAndVerifySignatures_eq_some {crypto : Crypto} {s : State} {now : Nat} {data : ByteVec}
    {checkGuardianSetIndex : Bool} {body : ByteVec} :
    parseAndVerifySignatures crypto s now data checkGuardianSetIndex = some body ↔
      ∃ idx count rest es, Header data idx count rest ∧
        (checkGuardianSetIndex = true → beNat idx = s.guardianSetIndexes 1) ∧ count.toNat ≤ 19 ∧
        scan (List.finRange 19) rest = some (es, body) ∧
        Verified crypto s now (beNat idx) count.toNat es
          (crypto.keccak256 (crypto.keccak256 body)) := by
  have hloop : ∀ (h : 6 ≤ data.length), loop 19 (parseSignature data) (6, fun _ => [0x00]) =
      (scan (List.finRange 19) (data.drop 6)).map fun (es, rest) =>
        (data.length - rest.length, table es fun _ => [0x00]) :=
    fun h => foldlM_parseSignature _ h _
  have hbody : ∀ {es rest}, 6 ≤ data.length →
      scan (List.finRange 19) (data.drop 6) = some (es, rest) →
      byteVecSlice data (data.length - rest.length) data.length = some rest := by
    intro es rest hsix hscan
    have hsplit : data = data.take 6 ++ (es.flatMap entryBytes ++ rest) := by
      rw [← (scan_scanned hscan).bytes, List.take_append_drop]
    refine slice?_suffix (hsplit.trans (List.append_assoc _ _ _).symm) ?_
    conv_lhs => rw [hsplit]
    simp only [List.length_append]
    omega
  constructor
  · intro h
    rw [parseAndVerifySignatures] at h
    simp only [Option.bind_eq_bind, Option.bind_eq_some_iff, assert_eq_some] at h
    obtain ⟨_, hversion, _, rfl, idx, hidx, _, hread, _, hcheck, cnt, hcnt, _, hread', _, hle,
      ⟨index, signatures⟩, hparse, body', hslice, _, hverify, hret⟩ := h
    obtain ⟨count, rfl, hheader⟩ := Header.of_slices hversion hidx hcnt
    obtain rfl := (u256FromBytes_eq_some.mp hread).2
    obtain rfl := (u256FromBytes_eq_some.mp hread').2
    rw [hloop hheader.six_le, Option.map_eq_some_iff] at hparse
    obtain ⟨⟨es, rest⟩, hscan, hindex⟩ := hparse
    obtain ⟨rfl, rfl⟩ := Prod.mk.inj hindex
    obtain rfl : rest = body' := by
      rw [hbody hheader.six_le hscan] at hslice
      exact Option.some.inj hslice
    obtain rfl : rest = body := Option.some.inj hret
    have hscanned := scan_scanned hscan
    rw [beNat_singleton] at hle hverify
    exact ⟨idx, count, _, es, hheader, hcheck, hle, hscan,
      (verifySignatures_eq_some hscanned.nodup hscanned.length hle).mp hverify⟩
  · rintro ⟨idx, count, rest, es, hheader, hcheck, hsize, hscan, hverified⟩
    have hsix := hheader.six_le
    have hscanned := scan_scanned hscan
    have hscan' : scan (List.finRange 19) (data.drop 6) = some (es, body) := by
      rw [hheader.drop, hscan]
    have hindex : u256From4Byte idx = some (beNat idx) :=
      u256FromBytes_eq_some.mpr ⟨hheader.length, rfl⟩
    have hdeclared : u256From1Byte [count] = some count.toNat :=
      u256FromBytes_eq_some.mpr ⟨rfl, beNat_singleton count⟩
    have hparse := hloop hsix
    rw [hscan', Option.map_some] at hparse
    have hverify := (verifySignatures_eq_some hscanned.nodup hscanned.length hsize).mpr hverified
    simp only [parseAndVerifySignatures, hheader.version, hheader.index, hheader.declared, hindex,
      hdeclared, assert_true hcheck, assert_true hsize, hparse, hbody hsix hscan', hverify, some_bind]
    rfl

end Wormhole.Alephium.Governance
