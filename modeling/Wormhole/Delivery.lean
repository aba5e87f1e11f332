/-
# Wormhole.Delivery — what becomes of the VAAs that the nodes broadcast.

A VAA that a node broadcasts is accepted by the core contracts, as long as they know its guardian set and the set has
not expired: the contract of the EVM and the one of Terra verify it, and the one of Alephium returns its body unless it
takes the timestamp for a signature (`broadcast_delivered`).

The chains recover the signer of a signature with functions of their own.  They do it as the node does for signatures
in the form that `crypto.Sign` produces (`Canonical`); of the signatures of other guardians this is a condition.
-/
import Mathlib
import Wormhole.Lib.Bytes
import Wormhole.Lib.Go
import Wormhole.Ethereum.Verification
import Wormhole.Network
import Wormhole.Terra.Core
import Wormhole.VaaAgreement

namespace Wormhole.Delivery

open Wormhole.Lib Wormhole.Lib.Bytes
open Wormhole.Guardian (VAA Input Observed EthAddress SupportedVAAVersion marshal serializeBody signingMsg
  pubKeyAddress calculateQuorum)
open Wormhole.Network Wormhole.VaaAgreement

/-! ## Signatures -/

/-- The order of the group of secp256k1. -/
def secp256k1N : Nat := 0xfffffffffffffffffffffffffffffffebaaedce6af48a03bbfd25e8cd0364141

/-- A signature as it is produced: the recovery id is 0 or 1, and `s` is in the lower half. -/
def Canonical (sig : Guardian.Signature) : Prop :=
  recoveryId sig ≤ 1 ∧ 2 * beNat ((sig.signature.val.drop 32).take 32) ≤ secp256k1N

instance (sig : Guardian.Signature) : Decidable (Canonical sig) := inferInstanceAs (Decidable (_ ∧ _))

section Chains

variable (crypto : Guardian.Crypto)

/-- The EVM hashes and recovers signers as the node does. -/
structure EvmRecovers (keccak256 : List UInt8 → List UInt8) (ecrecover : Ethereum.Ecrecover) : Prop where
  keccak256 : ∀ bs, keccak256 bs = (crypto.Keccak256 bs).val
  ecrecover : ∀ digest sig pubKey, Canonical sig → crypto.Ecrecover digest sig.signature = some pubKey →
    ecrecover digest.val (evmSignature sig).v (evmSignature sig).r (evmSignature sig).s = pubKeyAddress crypto pubKey

/-- The libraries of the contract on Terra do. -/
structure TerraRecovers {ρ κ : Type} (terra : Terra.Core.Crypto ρ κ) : Prop where
  keccak256 : terra.keccak256 = crypto.Keccak256
  recover : ∀ digest sig pubKey, Canonical sig → crypto.Ecrecover digest sig.signature = some pubKey →
    ∃ r k, terra.recoverableSignature (sig.signature.val.take 64) (recoveryId sig) = some r ∧
      terra.recoverVerifyKey r digest.val = some k ∧ terra.decompress k = some pubKey.val

/-- Alephium does. -/
structure AlephiumRecovers (alephium : Alephium.Governance.Crypto) : Prop where
  keccak256 : ∀ bs, alephium.keccak256 bs = (crypto.Keccak256 bs).val
  recover : ∀ digest sig pubKey, Canonical sig → crypto.Ecrecover digest sig.signature = some pubKey →
    alephium.ethEcRecover digest.val sig.signature.val = some (pubKeyAddress crypto pubKey).val

end Chains

/-! ## On the EVM -/

section Ethereum

open Wormhole.Ethereum

variable {ecrecover : Ecrecover} {s : WormholeState} {timestamp : Nat} {vm : VM}

/-- **The loop** accepts signatures of guardians of the set, at ascending indices. -/
theorem verifySignaturesFrom_complete {hash : List UInt8} {guardianSet : GuardianSet} {i lastIndex : Nat}
    {sigs : List Ethereum.Signature} (hascending : sigs.Pairwise fun a b => a.guardianIndex < b.guardianIndex)
    (hlast : i = 0 ∨ ∀ sig ∈ sigs, lastIndex < sig.guardianIndex)
    (hsigned : ∀ sig ∈ sigs, SignedBy ecrecover hash guardianSet.keys sig) :
    verifySignaturesFrom ecrecover hash guardianSet i lastIndex sigs = .ok (true, "") := by
  induction sigs generalizing i lastIndex with
  | nil => rfl
  | cons sig sigs ih =>
    obtain ⟨habove, hrest⟩ := List.pairwise_cons.mp hascending
    obtain ⟨⟨key, hkey, hrecover⟩, hall⟩ := List.forall_mem_cons.mp hsigned
    have hfirst : i = 0 ∨ lastIndex < sig.guardianIndex := hlast.imp_right fun h => h sig List.mem_cons_self
    rw [verifySignaturesFrom, require, if_pos hfirst, Failing.ok_bind, hkey]
    dsimp only
    rw [if_neg (not_not.mpr hrecover)]
    exact ih hrest (.inr habove) hall

/-- A VAA with a quorum of a live set is accepted. -/
theorem verifyVM_complete (h : Verified ecrecover s timestamp vm) :
    verifyVM ecrecover s timestamp vm = .ok (true, "") := by
  have hkeys : (s.guardianSets vm.guardianSetIndex).keys.length ≠ 0 := fun h0 => h.keys (List.length_eq_zero_iff.mp h0)
  have hlive : ¬(vm.guardianSetIndex ≠ s.guardianSetIndex ∧
      (s.guardianSets vm.guardianSetIndex).expirationTime < timestamp) := by
    rintro ⟨hold, hexpired⟩
    exact absurd (h.live.resolve_left hold) (by omega)
  have hquorum : ¬vm.signatures.length < quorum (s.guardianSets vm.guardianSetIndex).keys.length := by
    have hmajority := h.quorum
    rw [QuorumAgreement.ethereum_quorum_eq, QuorumAgreement.majority]
    omega
  have hsignatures : verifySignatures ecrecover vm.hash vm.signatures (s.guardianSets vm.guardianSetIndex) =
      .ok (true, "") := verifySignaturesFrom_complete h.ascending (.inl rfl) h.signed
  rw [verifyVM, if_neg hkeys, if_neg hlive, if_neg hquorum, hsignatures]
  rfl

end Ethereum

/-! ## On Terra -/

section Terra

open Wormhole.Terra Wormhole.Terra.Core
open Wormhole.Terra.Core.ParsedVAA (HEADER_LEN SIGNATURE_LEN)

variable {ρ κ : Type} {terra : Terra.Core.Crypto ρ κ} {crypto : Guardian.Crypto}

theorem getUint_of_slice {data : List UInt8} {w n index : Nat}
    (h : slice? data index (index + w) = some (beBytes w n)) (hn : n < 256 ^ w) : getUint w data index = .ok n :=
  getUint_iff.mpr ⟨h, hn⟩

/-- A signature where the node wrote it, of a guardian after the last one. -/
theorem verifySignature_bytes (hterra : TerraRecovers crypto terra) {pre post : List UInt8}
    {sig : Guardian.Signature} {digest : FixedBytes 32} {keys : List (List UInt8)} {pubKey : FixedBytes 65}
    {lastIndex : Int} (hcanonical : Canonical sig)
    (hrecover : crypto.Ecrecover digest sig.signature = some pubKey)
    (hkey : keys[sig.index.toNat]? = some (pubKeyAddress crypto pubKey).val) (hlast : lastIndex < sig.index.toNat) :
    verifySignature terra (pre ++ (sig.bytes ++ post)) digest.val keys pre.length lastIndex = .ok sig.index.toNat := by
  obtain ⟨r, k, hr, hk, hpoint⟩ := hterra.recover digest sig pubKey hcanonical hrecover
  have hlen := sig.signature.property
  have h64 : (sig.signature.val.take 64).length = 64 := by simp [hlen]
  have hid : sig.signature.val.drop 64 = beBytes 1 (recoveryId sig) := by
    obtain ⟨b, hb⟩ := List.length_eq_one_iff.mp (show (sig.signature.val.drop 64).length = 1 by simp [hlen])
    rw [recoveryId, hb, beNat_singleton, beBytes_uint8]
  have hidlt : recoveryId sig < 256 ^ 1 := by
    have := hcanonical.1
    omega
  -- the entry: index, signature, recovery id
  have hsplit : sig.bytes = beBytes 1 sig.index.toNat ++ (sig.signature.val.take 64 ++ beBytes 1 (recoveryId sig)) := by
    rw [← hid, List.take_append_drop, beBytes_uint8]
    rfl
  have hread : ∀ i j, slice? (pre ++ (sig.bytes ++ post)) (pre.length + i) (pre.length + j) =
      slice? (sig.bytes ++ post) i j := slice?_skip rfl _
  have hfits : pre.length + SIGNATURE_LEN ≤ (pre ++ (sig.bytes ++ post)).length := by
    simp only [List.length_append, Guardian.Signature.bytes_length, SIGNATURE_LEN]
    omega
  generalize pre ++ (sig.bytes ++ post) = data at hread hfits ⊢
  rw [hsplit] at hread
  simp only [List.append_assoc] at hread
  have hindex : getU8 data pre.length = .ok sig.index.toNat :=
    getUint_of_slice ((hread 0 1).trans (slice?_head (beBytes_length 1 _) _)) (by have := sig.index.toNat_lt; omega)
  have hsignature : getBytes data (pre.length + ParsedVAA.SIG_DATA_POS) ParsedVAA.SIG_DATA_LEN =
      .ok (sig.signature.val.take 64) := by
    refine getBytes_eq_ok.mpr ?_
    exact (hread 1 65).trans ((slice?_skip (beBytes_length 1 _) _ 0 64).trans (slice?_head h64 _))
  have hrecovery : getU8 data (pre.length + ParsedVAA.SIG_RECOVERY_POS) = .ok (recoveryId sig) := by
    refine getUint_of_slice ?_ hidlt
    exact (hread 65 66).trans ((slice?_skip (beBytes_length 1 _) _ 64 65).trans
      ((slice?_skip h64 _ 0 1).trans (slice?_head (beBytes_length 1 _) _)))
  have hequal : keysEqual terra k (pubKeyAddress crypto pubKey).val = true := by
    rw [keysEqual, hpoint, hterra.keccak256]
    exact decide_eq_true rfl
  simp only [verifySignature, ensure, if_pos hfits, hindex, if_pos hlast, hsignature, hrecovery, hr, hk, hkey, okOr,
    hequal, Go.ok_bind, if_true]
  rfl

/-- **The loop** accepts the signatures that the node wrote. -/
theorem verifySignatures_bytes (hterra : TerraRecovers crypto terra) {sigs : List Guardian.Signature}
    {digest : FixedBytes 32} {keys : List (List UInt8)} {lastIndex : Int}
    (hascending : sigs.Pairwise fun a b => a.index < b.index) (hlast : ∀ sig ∈ sigs, lastIndex < sig.index.toNat)
    (hcanonical : ∀ sig ∈ sigs, Canonical sig)
    (hsigned : ∀ sig ∈ sigs, ∃ pubKey, crypto.Ecrecover digest sig.signature = some pubKey ∧
      keys[sig.index.toNat]? = some (pubKeyAddress crypto pubKey).val) (pre post : List UInt8) :
    verifySignatures terra (pre ++ (sigs.flatMap Guardian.Signature.bytes ++ post)) digest.val keys sigs.length
      pre.length lastIndex = .ok () := by
  induction sigs generalizing pre lastIndex with
  | nil => rfl
  | cons sig sigs ih =>
    obtain ⟨habove, hrest⟩ := List.pairwise_cons.mp hascending
    obtain ⟨⟨pubKey, hrecover, hkey⟩, hall⟩ := List.forall_mem_cons.mp hsigned
    obtain ⟨hform, hforms⟩ := List.forall_mem_cons.mp hcanonical
    have hfirst := @verifySignature_bytes _ _ terra crypto hterra pre
      (sigs.flatMap Guardian.Signature.bytes ++ post) sig digest keys pubKey lastIndex hform hrecover hkey
      (hlast sig List.mem_cons_self)
    have hafter : ∀ sig' ∈ sigs, ((sig.index.toNat : Nat) : Int) < sig'.index.toNat := by
      intro sig' hsig'
      exact_mod_cast UInt8.lt_iff_toNat_lt.mp (habove sig' hsig')
    have htail := ih hrest hafter hforms hall (pre ++ sig.bytes)
    rw [List.length_append, Guardian.Signature.bytes_length, List.append_assoc] at htail
    rw [List.flatMap_cons, List.append_assoc, List.length_cons, verifySignatures, hfirst, Go.ok_bind]
    exact htail

/-- What the node wrote is read back. -/
theorem deserialize_marshal (keccak256 : List UInt8 → FixedBytes 32) {v : VAA}
    (hversion : v.version = SupportedVAAVersion) (hcount : v.signatures.length < 256) :
    ParsedVAA.deserialize keccak256 (marshal v) = .ok
      { version := 1
        guardianSetIndex := v.guardianSetIndex.toNat
        timestamp := v.timestamp.unix32
        nonce := v.nonce.toNat
        lenSigners := v.signatures.length
        emitterChain := v.emitterChain.toNat
        emitterAddress := v.emitterAddress.val
        sequence := v.sequence.toNat
        consistencyLevel := v.consistencyLevel.toNat
        payload := v.payload
        hash := (keccak256 (keccak256 (serializeBody v)).val).val } := by
  obtain ⟨pre, hpre, hpre6⟩ : ∃ pre : List UInt8, marshal v =
      pre ++ (v.signatures.flatMap Guardian.Signature.bytes ++ serializeBody v) ∧ pre.length = 6 :=
    ⟨v.version :: (beBytes 4 v.guardianSetIndex.toNat ++ [UInt8.ofNat v.signatures.length]),
      by simp [marshal], by simp⟩
  have hsigs : (v.signatures.flatMap Guardian.Signature.bytes).length = 66 * v.signatures.length := by
    rw [List.length_flatMap, List.map_congr_left fun sig _ => sig.bytes_length, List.map_const',
      List.sum_replicate, smul_eq_mul, Nat.mul_comm]
  have hfront : (pre ++ v.signatures.flatMap Guardian.Signature.bytes).length =
      HEADER_LEN + SIGNATURE_LEN * v.signatures.length := by
    rw [List.length_append, hpre6, hsigs]
    rfl
  have hbody := Guardian.serializeBody_length v
  have hlength : (marshal v).length =
      HEADER_LEN + SIGNATURE_LEN * v.signatures.length + (serializeBody v).length := by
    rw [hpre, ← List.append_assoc, List.length_append, hfront]
  have hread : ∀ i j, slice? (marshal v) (HEADER_LEN + SIGNATURE_LEN * v.signatures.length + i)
      (HEADER_LEN + SIGNATURE_LEN * v.signatures.length + j) = slice? (serializeBody v) i j := by
    intro i j
    rw [hpre, ← List.append_assoc]
    exact slice?_skip hfront _ i j
  -- the header
  have hone : getU8 (marshal v) 0 = .ok 1 := by
    refine getUint_of_slice ?_ (by decide)
    rw [marshal, hversion]
    exact slice?_head (show [SupportedVAAVersion].length = 0 + 1 from rfl) _
  have hindex : getU32 (marshal v) ParsedVAA.GUARDIAN_SET_INDEX_POS = .ok v.guardianSetIndex.toNat :=
    getUint_of_slice ((slice?_skip (show [v.version].length = 1 from rfl) _ 0 4).trans
      (slice?_head (beBytes_length 4 _) _)) (toNat_lt_uint32 _)
  have hsigners : getU8 (marshal v) ParsedVAA.LEN_SIGNER_POS = .ok v.signatures.length := by
    refine getUint_of_slice ?_ hcount
    rw [beBytes_one]
    exact (slice?_skip (show [v.version].length = 1 from rfl) _ 4 5).trans
      ((slice?_skip (beBytes_length 4 _) _ 0 1).trans
        (slice?_head (show [UInt8.ofNat v.signatures.length].length = 1 from rfl) _))
  -- the body
  obtain ⟨offset, hoffset⟩ : ∃ offset, offset = HEADER_LEN + SIGNATURE_LEN * v.signatures.length := ⟨_, rfl⟩
  rw [← hoffset] at hlength hread
  have hinside : offset < (marshal v).length := by omega
  have hpayloadInside : offset + ParsedVAA.VAA_PAYLOAD_POS ≤ (marshal v).length := by
    show offset + 51 ≤ (marshal v).length
    omega
  have hrest : getRest (marshal v) offset = .ok (serializeBody v) := by
    refine getRest_iff.mpr ?_
    rw [hlength]
    exact (hread 0 _).trans (slice?_suffix (List.nil_append _).symm rfl)
  have htimestamp : getU32 (marshal v) offset = .ok v.timestamp.unix32 :=
    getUint_of_slice ((hread 0 4).trans (Guardian.body_timestamp v)) v.timestamp.unix32_lt
  have hnonce : getU32 (marshal v) (offset + ParsedVAA.VAA_NONCE_POS) = .ok v.nonce.toNat :=
    getUint_of_slice ((hread 4 8).trans (Guardian.body_nonce v)) (toNat_lt_uint32 _)
  have hchain : getU16 (marshal v) (offset + ParsedVAA.VAA_EMITTER_CHAIN_POS) = .ok v.emitterChain.toNat :=
    getUint_of_slice ((hread 8 10).trans (Guardian.body_emitterChain v)) (toNat_lt_uint16 _)
  have haddress : getBytes32 (marshal v) (offset + ParsedVAA.VAA_EMITTER_ADDRESS_POS) = .ok v.emitterAddress.val :=
    getBytes_eq_ok.mpr ((hread 10 42).trans (Guardian.body_emitterAddress v))
  have hsequence : getU64 (marshal v) (offset + ParsedVAA.VAA_SEQUENCE_POS) = .ok v.sequence.toNat :=
    getUint_of_slice ((hread 42 50).trans (Guardian.body_sequence v)) (toNat_lt_uint64 _)
  have hlevel : getU8 (marshal v) (offset + ParsedVAA.VAA_CONSISTENCY_LEVEL_POS) = .ok v.consistencyLevel.toNat :=
    getUint_of_slice ((hread 50 51).trans (Guardian.body_consistencyLevel v)) (toNat_lt_uint8 _)
  have hpayload : getRest (marshal v) (offset + ParsedVAA.VAA_PAYLOAD_POS) = .ok v.payload := by
    refine getRest_iff.mpr ?_
    rw [hlength]
    exact (hread 51 _).trans (Guardian.body_payload v)
  simp only [ParsedVAA.deserialize, hone, hindex, hsigners, Go.ok_bind, ← hoffset, ensure, if_pos hinside, hrest,
    if_pos hpayloadInside, htimestamp, hnonce, hchain, haddress, hsequence, hlevel, hpayload]
  rfl

/-- What the contract has to know of the guardian set: its guardians, that it has not expired, and nothing under the
digest of the VAA. -/
structure TerraReady (s : Terra.Core.State) (blockTime : Nat) (keys : List EthAddress) (index : Nat)
    (digest : List UInt8) : Prop where
  set : ∃ set, guardianSetGet s index = .ok set ∧ set.addresses = keys.map (·.val) ∧
    (set.expirationTime = 0 ∨ blockTime ≤ set.expirationTime)
  fresh : vaaArchiveCheck s digest = false

end Terra

/-! ## Accepted -/

section Accepted

variable {crypto : Guardian.Crypto} {honest : Finset EthAddress} {sets : UInt32 → List EthAddress} {log : Events}
  {sender : EthAddress} {v : VAA}

/-- The contract on the EVM, while it knows the guardians at this index and they have not expired, verifies the VAA
and reads the message that was observed. -/
def AcceptedByEvm (crypto : Guardian.Crypto) (keys : List EthAddress) (v : VAA) : Prop :=
  ∀ keccak256 ecrecover, EvmRecovers crypto keccak256 ecrecover → ∀ (s : Ethereum.WormholeState) timestamp,
    (s.guardianSets v.guardianSetIndex.toNat).keys = keys →
    (v.guardianSetIndex.toNat = s.guardianSetIndex ∨
      timestamp ≤ (s.guardianSets v.guardianSetIndex.toNat).expirationTime) →
    ∃ vm, Ethereum.parseAndVerifyVM keccak256 ecrecover s timestamp (marshal v) = .ok (vm, true, "") ∧
      vm.emitterChainId = v.emitterChain.toNat ∧ vm.emitterAddress = v.emitterAddress.val ∧
      vm.sequence = v.sequence.toNat ∧ vm.payload = v.payload ∧ vm.hash = (signingMsg crypto v).val

/-- The contract on Terra verifies the VAA and reads the message. -/
def AcceptedByTerra (crypto : Guardian.Crypto) (keys : List EthAddress) (v : VAA) : Prop :=
  ∀ (ρ κ : Type) (terra : Terra.Core.Crypto ρ κ), TerraRecovers crypto terra → ∀ (s : Terra.Core.State) blockTime,
    TerraReady s blockTime keys v.guardianSetIndex.toNat (signingMsg crypto v).val →
    ∃ vaa, Terra.Core.parseAndVerifyVaa terra s (marshal v) blockTime = .ok vaa ∧
      vaa.emitterChain = v.emitterChain.toNat ∧ vaa.emitterAddress = v.emitterAddress.val ∧
      vaa.sequence = v.sequence.toNat ∧ vaa.payload = v.payload ∧ vaa.hash = (signingMsg crypto v).val

/-- The contract on Alephium, with its room for 19 guardians, returns the body of the VAA, unless it takes the high
byte of the timestamp for the index of one more signer. -/
def AcceptedByAlephium (crypto : Guardian.Crypto) (keys : List EthAddress) (v : VAA) : Prop :=
  ∀ alephium, AlephiumRecovers crypto alephium → ∀ (s : Alephium.Governance.State) now (slots : Fin 19 → List UInt8),
    keys.length ≤ 19 → Alephium.Governance.NamedSet s now v.guardianSetIndex.toNat slots keys.length →
    (∀ (i : Fin 19) key, keys[i.val]? = some key → slots i = key.val) → v.timestamp.Whole →
    (Alephium.Governance.parseAndVerifySignatures alephium s now (marshal v) false = some (serializeBody v) ↔
      ¬Swallowed v)

theorem backed_evm (h : Backed crypto honest sets log sender v) (hversion : v.version = SupportedVAAVersion)
    (hcanonical : ∀ sig ∈ v.signatures, Canonical sig) : AcceptedByEvm crypto (sets v.guardianSetIndex) v := by
  intro keccak256 ecrecover hevm s timestamp hkeys hlive
  have hcount := h.length_le
  have hparse := parseVM_marshal keccak256 hversion (by omega) fun sig hsig => by
    have hid := (hcanonical sig hsig).1
    omega
  have hhash : keccak256 (keccak256 (serializeBody v)) = (signingMsg crypto v).val := by
    rw [hevm.keccak256 (serializeBody v), hevm.keccak256]
    rfl
  rw [hhash] at hparse
  have hquorum := h.quorum
  rw [QuorumAgreement.calculateQuorum_eq, QuorumAgreement.majority] at hquorum
  obtain ⟨vm, hvm, hindex, hsigs, hdigest, hfields⟩ : ∃ vm, Ethereum.parseVM keccak256 (marshal v) = .ok vm ∧
      vm.guardianSetIndex = v.guardianSetIndex.toNat ∧ vm.signatures = v.signatures.map evmSignature ∧
      vm.hash = (signingMsg crypto v).val ∧ vm.emitterChainId = v.emitterChain.toNat ∧
      vm.emitterAddress = v.emitterAddress.val ∧ vm.sequence = v.sequence.toNat ∧ vm.payload = v.payload :=
    ⟨_, hparse, rfl, rfl, rfl, rfl, rfl, rfl, rfl⟩
  have hverified : Ethereum.Verified ecrecover s timestamp vm := by
    refine ⟨?_, ?_, ?_, ?_, ?_⟩
    · rw [hindex, hkeys]
      intro hnil
      have hnone : v.signatures.length = 0 := by
        rw [← h.signed, hnil]
        exact Finset.card_eq_zero.mpr (Finset.subset_empty.mp (signers_subset [] v))
      omega
    · rw [hindex]
      exact hlive
    · rwa [hindex, hkeys, hsigs, List.length_map]
    · rw [hsigs]
      refine List.pairwise_map.mpr (h.ascending.imp ?_)
      intro a b hab
      exact UInt8.lt_iff_toNat_lt.mp hab
    · rw [hindex, hkeys, hsigs, hdigest]
      intro sig' hsig'
      obtain ⟨sig, hsig, rfl⟩ := List.mem_map.mp hsig'
      obtain ⟨pubKey, hrecover, hkey⟩ := h.recovers sig hsig
      exact ⟨pubKeyAddress crypto pubKey, hkey, hevm.ecrecover _ sig pubKey (hcanonical sig hsig) hrecover⟩
  obtain ⟨hchain, haddress, hsequence, hpayload⟩ := hfields
  refine ⟨vm, ?_, hchain, haddress, hsequence, hpayload, hdigest⟩
  rw [Ethereum.parseAndVerifyVM, hvm, Failing.ok_bind, verifyVM_complete hverified]
  rfl

theorem backed_terra (h : Backed crypto honest sets log sender v) (hversion : v.version = SupportedVAAVersion)
    (hcanonical : ∀ sig ∈ v.signatures, Canonical sig) : AcceptedByTerra crypto (sets v.guardianSetIndex) v := by
  intro ρ κ terra hterra s blockTime hready
  have hcount := h.length_le
  have hparse := deserialize_marshal terra.keccak256 hversion (show v.signatures.length < 256 by omega)
  have hhash : (terra.keccak256 (terra.keccak256 (serializeBody v)).val).val = (signingMsg crypto v).val := by
    rw [hterra.keccak256]
    rfl
  rw [hhash] at hparse
  obtain ⟨set, hset, haddresses, hlive⟩ := hready.set
  have hcommitted : Terra.committed (Terra.Core.guardianSetGet s v.guardianSetIndex.toNat) = some set :=
    Terra.committed_eq_some.mpr hset
  have hquorum : set.quorum ≤ v.signatures.length := by
    have hneeded := h.quorum
    unfold Terra.Core.GuardianSetInfo.quorum
    rw [haddresses, List.length_map]
    split
    · exact Nat.zero_le _
    · exact hneeded
  have hsignatures : Terra.Core.verifySignatures terra (marshal v) (signingMsg crypto v).val set.addresses
      v.signatures.length Terra.Core.ParsedVAA.HEADER_LEN (-1) = .ok () := by
    obtain ⟨pre, hpre, hpre6⟩ : ∃ pre : List UInt8, marshal v =
        pre ++ (v.signatures.flatMap Guardian.Signature.bytes ++ serializeBody v) ∧ pre.length = 6 :=
      ⟨v.version :: (beBytes 4 v.guardianSetIndex.toNat ++ [UInt8.ofNat v.signatures.length]),
        by simp [marshal], by simp⟩
    rw [hpre, show Terra.Core.ParsedVAA.HEADER_LEN = pre.length from hpre6.symm]
    refine verifySignatures_bytes hterra h.ascending (fun sig _ => by omega) hcanonical ?_ pre _
    intro sig hsig
    obtain ⟨pubKey, hrecover, hkey⟩ := h.recovers sig hsig
    refine ⟨pubKey, hrecover, ?_⟩
    rw [haddresses, List.getElem?_map, hkey]
    rfl
  obtain ⟨vaa, hvaa, hone, hindex, hsigners, hdigest, hfields⟩ : ∃ vaa,
      Terra.Core.ParsedVAA.deserialize terra.keccak256 (marshal v) = .ok vaa ∧ vaa.version = 1 ∧
      vaa.guardianSetIndex = v.guardianSetIndex.toNat ∧ vaa.lenSigners = v.signatures.length ∧
      vaa.hash = (signingMsg crypto v).val ∧ vaa.emitterChain = v.emitterChain.toNat ∧
      vaa.emitterAddress = v.emitterAddress.val ∧ vaa.sequence = v.sequence.toNat ∧ vaa.payload = v.payload :=
    ⟨_, hparse, rfl, rfl, rfl, rfl, rfl, rfl, rfl, rfl⟩
  obtain ⟨hchain, haddress, hsequence, hpayload⟩ := hfields
  refine ⟨vaa, ?_, hchain, haddress, hsequence, hpayload, hdigest⟩
  simp only [Terra.Core.parseAndVerifyVaa, hvaa, Go.ok_bind, Terra.ensure, hone, hindex, hsigners, hdigest, if_true,
    hready.fresh, hcommitted, Terra.okOr, if_pos hlive, if_pos hquorum, hsignatures]
  rfl

theorem backed_alephium (h : Backed crypto honest sets log sender v) (hversion : v.version = SupportedVAAVersion)
    (hcanonical : ∀ sig ∈ v.signatures, Canonical sig) : AcceptedByAlephium crypto (sets v.guardianSetIndex) v := by
  intro alephium halephium s now slots hroom hnamed hslots htime
  have hmember : ∀ sig ∈ v.signatures, sig.index.toNat < (sets v.guardianSetIndex).length := by
    intro sig hsig
    obtain ⟨pubKey, -, hkey⟩ := h.recovers sig hsig
    exact (List.getElem?_eq_some_iff.mp hkey).1
  have hsigned : WellSigned alephium s now slots (sets v.guardianSetIndex).length v := by
    have hquorum := h.quorum
    rw [QuorumAgreement.calculateQuorum_eq] at hquorum
    refine ⟨hversion, hnamed, h.ascending, ?_, hmember, ?_, hquorum, htime.1, htime.2.1, htime.2.2⟩
    · intro sig hsig
      exact (hmember sig hsig).trans_le hroom
    · intro sig hsig
      obtain ⟨pubKey, hrecover, hkey⟩ := h.recovers sig hsig
      have hslot : slots (signer sig) = (pubKeyAddress crypto pubKey).val := by
        refine hslots (signer sig) _ ?_
        rw [signer_val ((hmember sig hsig).trans_le hroom)]
        exact hkey
      rw [hslot, halephium.keccak256 (serializeBody v), halephium.keccak256]
      exact halephium.recover _ sig pubKey (hcanonical sig hsig) hrecover
  exact hsigned.parse_iff nofun

/-- An observation is a VAA of the supported version, if the injected ones are. -/
theorem version_of_observed {events : List Input} (h : Observed events v)
    (hinjected : ∀ w now, Input.injection w now ∈ events → w.version = SupportedVAAVersion) :
    v.version = SupportedVAAVersion := by
  rcases h with ⟨gs, k, now, fails, -, rfl⟩ | ⟨now, hmem⟩
  · rfl
  · exact hinjected v now hmem

/-- **What the nodes broadcast is accepted.**  In every run of the network in which operators inject VAAs of the
supported version: a VAA that a node broadcasts, with signatures in their usual form, is accepted by the core contracts
that know its guardian set, and read as the message that the node has observed. -/
theorem broadcast_delivered {sign : EthAddress → FixedBytes 32 → Option (FixedBytes 65)}
    {db : EthAddress → Guardian.Database} {net : Nodes} (h : Reaches crypto sign honest sets db net log)
    (hinjected : ∀ a w now, (a, Input.injection w now) ∈ log → w.version = SupportedVAAVersion) {b : EthAddress}
    {bytes : List UInt8} (hsent : .signedVAAWithQuorum bytes ∈ (net b).sendC) :
    ∃ v, bytes = marshal v ∧ Backed crypto honest sets log b v ∧ ((∀ sig ∈ v.signatures, Canonical sig) →
      AcceptedByEvm crypto (sets v.guardianSetIndex) v ∧ AcceptedByTerra crypto (sets v.guardianSetIndex) v ∧
      AcceptedByAlephium crypto (sets v.guardianSetIndex) v) := by
  obtain ⟨v, hbytes, hbacked⟩ := h.backed hsent
  refine ⟨v, hbytes, hbacked, ?_⟩
  obtain ⟨own, hown, hv⟩ := hbacked.own
  have hversion : v.version = SupportedVAAVersion := by
    have hsame : v.version = own.version := by rw [hv]
    rw [hsame]
    refine version_of_observed hown ?_
    intro w now hmem
    exact hinjected b w now (Wormhole.Lib.Interleaving.mem_inputsOf.mp hmem)
  intro hcanonical
  exact ⟨backed_evm hbacked hversion hcanonical, backed_terra hbacked hversion hcanonical,
    backed_alephium hbacked hversion hcanonical⟩

end Accepted

/-! ## Four guardians -/

section Four

theorem noSigner_length : (List.replicate 20 (0 : UInt8)).length = 20 := rfl

/-- The signer of a signature given in parts. -/
def sampleEcrecover : Ethereum.Ecrecover := fun _ v r s =>
  if h : (r ++ (s ++ [UInt8.ofNat (v - 27)])).length = 65 then
    pubKeyAddress Guardian.Crypto.sample ⟨r ++ (s ++ [UInt8.ofNat (v - 27)]), h⟩
  else ⟨List.replicate 20 0, noSigner_length⟩

theorem signature_parts (sig : Guardian.Signature) :
    sig.signature.val.take 32 ++ ((sig.signature.val.drop 32).take 32 ++ [UInt8.ofNat (recoveryId sig)]) =
      sig.signature.val := by
  have hlen := sig.signature.property
  have hid : sig.signature.val.drop 64 = [UInt8.ofNat (recoveryId sig)] := by
    obtain ⟨b, hb⟩ := List.length_eq_one_iff.mp (show (sig.signature.val.drop 64).length = 1 by simp [hlen])
    rw [recoveryId, hb, beNat_singleton, UInt8.ofNat_toNat]
  have hdrop : sig.signature.val.drop 64 = (sig.signature.val.drop 32).drop 32 := by rw [List.drop_drop]
  rw [← hid, hdrop, List.take_append_drop, List.take_append_drop]

theorem sampleEvm_recovers :
    EvmRecovers Guardian.Crypto.sample (fun bs => (Guardian.Crypto.sample.Keccak256 bs).val) sampleEcrecover := by
  refine ⟨fun _ => rfl, ?_⟩
  intro digest sig pubKey _ hrecover
  obtain rfl : sig.signature = pubKey := Option.some.inj hrecover
  have hparts : sig.signature.val.take 32 ++ ((sig.signature.val.drop 32).take 32 ++
      [UInt8.ofNat (recoveryId sig + 27 - 27)]) = sig.signature.val := by
    rw [Nat.add_sub_cancel]
    exact signature_parts sig
  have hlength : (sig.signature.val.take 32 ++ ((sig.signature.val.drop 32).take 32 ++
      [UInt8.ofNat (recoveryId sig + 27 - 27)])).length = 65 := by
    rw [hparts, sig.signature.property]
  rw [sampleEcrecover, evmSignature, dif_pos hlength]
  exact congrArg (pubKeyAddress Guardian.Crypto.sample) (Subtype.ext hparts)

/-- The contract on the EVM with the four guardians. -/
def fourOnEvm : Ethereum.WormholeState where
  guardianSets := fun index => { keys := if index = 4 then fourGuardians.Keys else [], expirationTime := 0 }
  guardianSetIndex := 4

/-- The contract of the EVM accepts what the first node has broadcast. -/
theorem sample_delivered : ∃ net, Reaches Guardian.Crypto.sample sampleSign threeHonest (fun _ => fourGuardians.Keys)
    (fun _ _ => none) net sampleEvents ∧
    .signedVAAWithQuorum (marshal (sampleVAA [0, 1, 2])) ∈ (net (guardian 1)).sendC ∧
    ∃ vm, Ethereum.parseAndVerifyVM (fun bs => (Guardian.Crypto.sample.Keccak256 bs).val) sampleEcrecover fourOnEvm 0
      (marshal (sampleVAA [0, 1, 2])) = .ok (vm, true, "") := by
  obtain ⟨net, hrun, hsent, -⟩ := sampleNetwork_run
  have hinjected : ∀ a w now, (a, Input.injection w now) ∈ sampleEvents → w.version = SupportedVAAVersion := by
    intro a w now hmem
    simp [sampleEvents] at hmem
  obtain ⟨v, hv, hbacked, haccepted⟩ := broadcast_delivered hrun hinjected hsent
  obtain ⟨hindex, hsigs, -⟩ := marshal_inj (by decide) hbacked.length_le hv
  have hcanonical : ∀ sig ∈ v.signatures, Canonical sig := by
    rw [← hsigs]
    decide
  have hfour : v.guardianSetIndex.toNat = 4 := by
    rw [← hindex]
    rfl
  obtain ⟨hevm, -, -⟩ := haccepted hcanonical
  obtain ⟨vm, hvm, -⟩ := hevm _ _ sampleEvm_recovers fourOnEvm 0 (by rw [hfour]; rfl) (.inl hfour)
  rw [← hv] at hvm
  exact ⟨net, hrun, hsent, vm, hvm⟩

end Four

end Wormhole.Delivery
