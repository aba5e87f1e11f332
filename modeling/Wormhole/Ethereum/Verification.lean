/-
# Wormhole.Ethereum.Verification — what the EVM core contract accepts.

A VAA that `parseAndVerifyVM` calls valid is signed by a quorum of a live guardian set, over the bytes
that are parsed (`parseAndVerifyVM_sound`).  The signature loop checks that the indices ascend, so the
signatures come from different guardians; the fixed-point quorum is the exact one for every size.
-/
import Mathlib
import Wormhole.Lib.Bytes
import Wormhole.Lib.Failing
import Wormhole.Ethereum.Evm
import Wormhole.Ethereum.Messages

namespace Wormhole.Ethereum

open Wormhole.Lib.Bytes Wormhole.Lib.Failing

/-! ## The readers -/

section Readers

variable {reason : String} {bs : List UInt8} {start : Nat}

theorem subUint_eq_ok {x y z : Nat} (h : subUint x y = .ok z) : y ≤ x ∧ x - y = z := by
  unfold subUint at h
  split at h
  · rename_i hle
    exact ⟨hle, Except.ok.inj h⟩
  · cases h

/-- The rest of the bytes from the start of a slice. -/
theorem drop_eq_of_slice? {s : List UInt8} {i j : Nat} (h : slice? bs i j = some s) :
    bs.drop i = s ++ bs.drop j := by
  obtain ⟨hij, -, rfl⟩ := slice?_eq_some.mp h
  have hdrop : (bs.drop i).drop (j - i) = bs.drop j := by
    rw [List.drop_drop]
    congr 1
    omega
  rw [← hdrop, List.take_append_drop]

/-- A slice up to the end. -/
theorem drop_eq_of_slice {s : List UInt8} {n : Nat} (hn : subUint bs.length start = .ok n)
    (h : slice bs start n = .ok s) : start ≤ bs.length ∧ s = bs.drop start := by
  obtain ⟨hle, rfl⟩ := subUint_eq_ok hn
  have hslice := readBytes_eq_ok.mp h
  have hend : start + (bs.length - start) = bs.length := by omega
  rw [hend] at hslice
  have hdrop := drop_eq_of_slice? hslice
  rw [List.drop_length, List.append_nil] at hdrop
  exact ⟨hle, hdrop.symm⟩

end Readers

/-! ## What is parsed -/

/-- The bytes behind the signatures. -/
def VM.body (vm : VM) (encodedVM : List UInt8) : List UInt8 :=
  encodedVM.drop (6 + 66 * vm.signatures.length)

/-- **The body is laid out in the fields.** -/
structure VM.Fields (vm : VM) (body : List UInt8) : Prop where
  layout : body = beBytes 4 vm.timestamp ++ (beBytes 4 vm.nonce ++ (beBytes 2 vm.emitterChainId ++
    (vm.emitterAddress ++ (beBytes 8 vm.sequence ++ (beBytes 1 vm.consistencyLevel ++ vm.payload)))))
  timestamp : vm.timestamp < 2 ^ 32
  nonce : vm.nonce < 2 ^ 32
  emitterChainId : vm.emitterChainId < 2 ^ 16
  emitterAddress : vm.emitterAddress.length = 32
  sequence : vm.sequence < 2 ^ 64
  consistencyLevel : vm.consistencyLevel < 2 ^ 8

theorem parseSignatures_length {encodedVM : List UInt8} {n index : Nat} {sigs : List Signature}
    (h : parseSignatures encodedVM n index = .ok sigs) : sigs.length = n := by
  induction n generalizing index sigs with
  | zero =>
    rw [← Except.ok.inj h]
    rfl
  | succ n ih =>
    obtain ⟨sig, -, h⟩ := bind_eq_ok.mp h
    obtain ⟨rest, hrest, h⟩ := bind_eq_ok.mp h
    rw [← Except.ok.inj h]
    show rest.length + 1 = n + 1
    rw [ih hrest]

/-- **What is hashed is what is parsed.** -/
theorem parseVM_eq_ok {keccak256 : List UInt8 → List UInt8} {encodedVM : List UInt8} {vm : VM}
    (h : parseVM keccak256 encodedVM = .ok vm) :
    6 + 66 * vm.signatures.length ≤ encodedVM.length ∧
    vm.hash = keccak256 (keccak256 (vm.body encodedVM)) ∧ vm.Fields (vm.body encodedVM) := by
  simp only [parseVM, bind_eq_ok] at h
  obtain ⟨version, -, _, -, guardianSetIndex, -, signersLen, -, signatures, hsigs, n, hn, body, hbody,
    timestamp, htimestamp, nonce, hnonce, emitterChainId, hchain, emitterAddress, haddress, sequence,
    hsequence, consistencyLevel, hlevel, m, hm, payload, hpayload, h⟩ := h
  have hlength := parseSignatures_length hsigs
  obtain ⟨hle, hbody⟩ := drop_eq_of_slice hn hbody
  obtain ⟨-, hpayload⟩ := drop_eq_of_slice hm hpayload
  obtain ⟨htimestamp, htimestamp'⟩ := toUint_eq_ok htimestamp
  obtain ⟨hnonce, hnonce'⟩ := toUint_eq_ok hnonce
  obtain ⟨hchain, hchain'⟩ := toUint_eq_ok hchain
  obtain ⟨hsequence, hsequence'⟩ := toUint_eq_ok hsequence
  obtain ⟨hlevel, hlevel'⟩ := toUint_eq_ok hlevel
  have haddress := readBytes_eq_ok.mp haddress
  have haddress' := slice?_length haddress
  subst hlength
  rw [← Except.ok.inj h]
  refine ⟨hle, by rw [hbody]; rfl, ?_, htimestamp', hnonce', hchain', ?_, hsequence', hlevel'⟩
  · -- one field after the other
    show encodedVM.drop (6 + 66 * signatures.length) = _
    rw [drop_eq_of_slice? htimestamp, drop_eq_of_slice? hnonce, drop_eq_of_slice? hchain,
      drop_eq_of_slice? haddress, drop_eq_of_slice? hsequence, drop_eq_of_slice? hlevel, hpayload]
  · show emitterAddress.length = 32
    omega

/-! ## What is verified -/

/-- The fixed-point formula is the quorum. -/
theorem quorum_eq_floor (n : Nat) : quorum n = 2 * n / 3 + 1 := by
  unfold quorum
  omega

section Verify

variable {ecrecover : Ecrecover} {s : WormholeState} {timestamp : Nat} {vm : VM} {reason : String}

/-- The signature of a guardian in the set. -/
def SignedBy (ecrecover : Ecrecover) (hash : List UInt8) (keys : List Address) (sig : Signature) :
    Prop :=
  ∃ key, keys[sig.guardianIndex]? = some key ∧ ecrecover hash sig.v sig.r sig.s = key

/-- **The loop.** After the first signature, the last index is below those that follow. -/
theorem verifySignaturesFrom_sound {hash : List UInt8} {guardianSet : GuardianSet}
    {i lastIndex : Nat} {sigs : List Signature}
    (h : verifySignaturesFrom ecrecover hash guardianSet i lastIndex sigs = .ok (true, reason)) :
    sigs.Pairwise (fun a b => a.guardianIndex < b.guardianIndex) ∧
    (i ≠ 0 → ∀ sig ∈ sigs, lastIndex < sig.guardianIndex) ∧
    ∀ sig ∈ sigs, SignedBy ecrecover hash guardianSet.keys sig := by
  induction sigs generalizing i lastIndex with
  | nil => exact ⟨List.Pairwise.nil, fun _ => nofun, nofun⟩
  | cons sig sigs ih =>
    obtain ⟨_, hascending, h⟩ := bind_eq_ok.mp h
    rw [require_eq_ok] at hascending
    split at h
    · cases h
    · rename_i key hkey
      split at h
      · cases h
      · rename_i hsigned
        obtain ⟨hpairwise, habove, hall⟩ := ih h
        have habove := habove (Nat.succ_ne_zero i)
        refine ⟨List.pairwise_cons.mpr ⟨habove, hpairwise⟩, ?_, ?_⟩
        · intro hi sig' hsig'
          have hlast := hascending.resolve_left hi
          rcases List.mem_cons.mp hsig' with rfl | hsig'
          · exact hlast
          · exact hlast.trans (habove sig' hsig')
        · intro sig' hsig'
          rcases List.mem_cons.mp hsig' with rfl | hsig'
          · exact ⟨key, hkey, not_not.mp hsigned⟩
          · exact hall sig' hsig'

/-- **A quorum of a live set.** -/
structure Verified (ecrecover : Ecrecover) (s : WormholeState) (timestamp : Nat) (vm : VM) : Prop where
  keys : (s.guardianSets vm.guardianSetIndex).keys ≠ []
  live : vm.guardianSetIndex = s.guardianSetIndex ∨
    timestamp ≤ (s.guardianSets vm.guardianSetIndex).expirationTime
  quorum : 2 * (s.guardianSets vm.guardianSetIndex).keys.length / 3 + 1 ≤ vm.signatures.length
  ascending : vm.signatures.Pairwise fun a b => a.guardianIndex < b.guardianIndex
  signed : ∀ sig ∈ vm.signatures,
    SignedBy ecrecover vm.hash (s.guardianSets vm.guardianSetIndex).keys sig

theorem verifyVM_sound (h : verifyVM ecrecover s timestamp vm = .ok (true, reason)) :
    Verified ecrecover s timestamp vm := by
  simp only [verifyVM] at h
  split at h
  · cases h
  · rename_i hkeys
    split at h
    · cases h
    · rename_i hlive
      split at h
      · cases h
      · rename_i hquorum
        obtain ⟨⟨valid, invalidReason⟩, hsignatures, h⟩ := bind_eq_ok.mp h
        cases valid with
        | false => cases h
        | true =>
          obtain ⟨hascending, -, hsigned⟩ := verifySignaturesFrom_sound hsignatures
          refine ⟨?_, ?_, ?_, hascending, hsigned⟩
          · intro hnil
            apply hkeys
            rw [hnil]
            rfl
          · by_contra hno
            apply hlive
            rw [not_or, Nat.not_le] at hno
            exact hno
          · rw [← quorum_eq_floor]
            exact Nat.le_of_not_lt hquorum

/-- **Soundness.** Whatever the storage, the block time and the bytes: when `parseAndVerifyVM` says that
the VAA is valid, the guardian set it names has keys and is the current one or has not expired; at least
`⌊2n/3⌋ + 1` signatures, with strictly ascending indices below `n`, recover to the keys at their indices
from the hash; and the hash is that of the bytes behind the signatures, of which the fields are read. -/
theorem parseAndVerifyVM_sound {keccak256 : List UInt8 → List UInt8} {encodedVM : List UInt8}
    (h : parseAndVerifyVM keccak256 ecrecover s timestamp encodedVM = .ok (vm, true, reason)) :
    let keys := (s.guardianSets vm.guardianSetIndex).keys
    keys ≠ [] ∧
    (vm.guardianSetIndex = s.guardianSetIndex ∨
      timestamp ≤ (s.guardianSets vm.guardianSetIndex).expirationTime) ∧
    2 * keys.length / 3 + 1 ≤ vm.signatures.length ∧
    vm.signatures.Pairwise (fun a b => a.guardianIndex < b.guardianIndex) ∧
    (∀ sig ∈ vm.signatures, ∃ hlt : sig.guardianIndex < keys.length,
      ecrecover vm.hash sig.v sig.r sig.s = keys[sig.guardianIndex]) ∧
    6 + 66 * vm.signatures.length ≤ encodedVM.length ∧
    vm.hash = keccak256 (keccak256 (vm.body encodedVM)) ∧ vm.Fields (vm.body encodedVM) := by
  intro keys
  obtain ⟨vm', hparse, h⟩ := bind_eq_ok.mp h
  obtain ⟨⟨valid, reason'⟩, hverify, h⟩ := bind_eq_ok.mp h
  obtain ⟨rfl, hvalid⟩ := Prod.mk.inj (Except.ok.inj h)
  obtain ⟨rfl, rfl⟩ := Prod.mk.inj hvalid
  have hverified := verifyVM_sound hverify
  refine ⟨hverified.keys, hverified.live, hverified.quorum, hverified.ascending, ?_, parseVM_eq_ok hparse⟩
  intro sig hsig
  obtain ⟨key, hkey, hrecovered⟩ := hverified.signed sig hsig
  obtain ⟨hlt, hget⟩ := List.getElem?_eq_some_iff.mp hkey
  exact ⟨hlt, hrecovered.trans hget.symm⟩

end Verify

/-! ## Inputs -/

theorem sampleKey_length (b : UInt8) : (List.replicate 20 b).length = 20 := List.length_replicate

def sampleKey : Address := ⟨List.replicate 20 0x01, sampleKey_length 0x01⟩

/-- Four guardians, three of which are a quorum. -/
def sampleKeys : List Address :=
  sampleKey :: [0x02, 0x03, 0x04].map fun b => ⟨List.replicate 20 b, sampleKey_length b⟩

/-- They are the set 0. -/
def sampleState : WormholeState where
  guardianSets := fun index => { keys := if index = 0 then sampleKeys else [], expirationTime := 0 }
  guardianSetIndex := 0

/-- The first bytes of the input, filled up to 32. -/
def sampleKeccak (bs : List UInt8) : List UInt8 := (bs ++ List.replicate 32 0x00).take 32

/-- It recovers a guardian from the signature that starts with the guardian's key. -/
def sampleEcrecover : Ecrecover := fun _ v r s =>
  if v = 27 ∧ s = List.replicate 32 0x0c then
    (sampleKeys.find? fun key => r.take 20 = key.val).getD zeroAddress
  else zeroAddress

/-- The signature of the guardian with the index. -/
def sampleSignature (index b : UInt8) : List UInt8 :=
  [index] ++ List.replicate 32 b ++ List.replicate 32 0x0c ++ [0x00]

/-- A VAA that all but the second guardian have signed, of the emitter `emitterAddress` on the chain 2. -/
def sampleEncodedVM (emitterAddress : Word) (payload : List UInt8) : List UInt8 :=
  [0x01] ++ beBytes 4 0 ++ [0x03] ++
    (sampleSignature 0 0x01 ++ sampleSignature 2 0x03 ++ sampleSignature 3 0x04) ++
    (beBytes 4 1000 ++ beBytes 4 7 ++ beBytes 2 2 ++ emitterAddress.val ++ beBytes 8 5 ++ [0x0f] ++ payload)

/-- Three of the four have signed, in their order. -/
theorem sampleEncodedVM_valid : ∃ vm, parseAndVerifyVM sampleKeccak sampleEcrecover sampleState 5
      (sampleEncodedVM sampleKey.toWord [0x00, 0x01]) = .ok (vm, true, "") ∧
    vm.sequence = 5 ∧ vm.payload = [0x00, 0x01] ∧ vm.signatures.map Signature.guardianIndex = [0, 2, 3] ∧
    vm.Fields (vm.body (sampleEncodedVM sampleKey.toWord [0x00, 0x01])) := by
  have hrun : (parseAndVerifyVM sampleKeccak sampleEcrecover sampleState 5
      (sampleEncodedVM sampleKey.toWord [0x00, 0x01])).toOption.map (fun result =>
        (result.1.sequence, result.1.payload, result.1.signatures.map Signature.guardianIndex, result.2)) =
      some (5, [0x00, 0x01], [0, 2, 3], true, "") := by
    decide +kernel
  cases h : parseAndVerifyVM sampleKeccak sampleEcrecover sampleState 5
      (sampleEncodedVM sampleKey.toWord [0x00, 0x01]) with
  | error reason =>
    rw [h] at hrun
    cases hrun
  | ok result =>
    obtain ⟨vm, valid, reason⟩ := result
    rw [h] at hrun
    obtain ⟨hsequence, hrest⟩ := Prod.mk.inj (Option.some.inj hrun)
    obtain ⟨hpayload, hrest⟩ := Prod.mk.inj hrest
    obtain ⟨hindices, hvalid⟩ := Prod.mk.inj hrest
    obtain ⟨rfl, rfl⟩ := Prod.mk.inj hvalid
    exact ⟨vm, rfl, hsequence, hpayload, hindices, (parseAndVerifyVM_sound h).2.2.2.2.2.2.2⟩

end Wormhole.Ethereum
