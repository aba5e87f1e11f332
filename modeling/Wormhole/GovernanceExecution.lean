/-
# Wormhole.GovernanceExecution — the governance VAAs of the node, executed on Alephium.

The admin service of the node (`node/cmd/guardiand/adminserver.go`) makes four kinds of governance VAAs, with
the sequence number the operator gives; the templates put in a random 64-bit number.  On Alephium a guardian
set update is executed by the `Governance` contract, a registration by the `TokenBridge`; there is no entry
point for the two upgrades.  Each of the two contracts admits the sequence numbers of a moving window, which
starts at 0.

`governanceVaa_accepted_iff` says, after every run of such VAAs, which one is accepted next.
-/
import Mathlib
import Wormhole.Lib.Go
import Wormhole.Lib.Bytes
import Wormhole.Lib.Transition
import Wormhole.Alephium.Sequence
import Wormhole.Alephium.Governance
import Wormhole.Alephium.Rotation
import Wormhole.Alephium.TokenBridge
import Wormhole.Alephium.World
import Wormhole.Guardian.Governance
import Wormhole.GovernanceHeader
import Wormhole.GovernancePayloads
import Wormhole.VaaAgreement

namespace Wormhole.GovernanceExecution

open Wormhole.Lib Wormhole.Lib.Bytes Wormhole.Lib.Transition Wormhole.Alephium Wormhole.Alephium.Vm
open Wormhole.Alephium.Governance (Crypto quorum verifyGovernanceVAA updateGuardianSet)
open Wormhole.Alephium.Sequence (Window Acceptable)
open Wormhole.Guardian (VAA GovernanceMessage GovernancePayload BodyGuardianSetUpdate
  BodyTokenBridgeRegisterChain EthAddress CreateGovernanceVAA GovernanceChain GovernanceEmitter marshal
  serializeBody)
open Wormhole.GovernancePayloads Wormhole.VaaAgreement

/-! ## Executions -/

/-- A governance VAA of the node, signed and taken to its entry point. -/
structure Execution where
  message : GovernanceMessage
  currentSetIndex : UInt32
  signatures : List Guardian.Signature
  now : Nat
  /-- the id of the contract that a registration creates -/
  new : ContractId

/-- The contracts, and the sequence numbers of the VAAs they have executed. -/
structure Executed where
  world : World
  /-- by the `Governance` contract -/
  governed : List Nat
  /-- by the `TokenBridge` -/
  registered : List Nat

/-- Nothing in the upgrades has an entry point. -/
def entryPoint (payload : GovernancePayload) (vaa : ByteVec) (new : ContractId) : Option Call :=
  match payload with
  | .guardianSet _ => some (.updateGuardianSet vaa)
  | .bridgeRegisterChain _ _ _ => some (.registerChain vaa new)
  | .contractUpgrade _ _ => none
  | .bridgeContractUpgrade _ _ _ => none

def Executed.after (x : Executed) (message : GovernanceMessage) (world : World) : Executed :=
  match message.payload with
  | .guardianSet _ => { x with world, governed := x.governed ++ [message.sequence.toNat] }
  | _ => { x with world, registered := x.registered ++ [message.sequence.toNat] }

section Step

variable (hexToAddress : List UInt8 → Option EthAddress) (crypto : Crypto) (distance : Nat)

/-- What the node makes of the message, with the signatures. -/
def Execution.vaa (e : Execution) : Option VAA :=
  match e.message.toVAA hexToAddress e.currentSetIndex with
  | .ok v => some { v with signatures := e.signatures }
  | _ => none

def step (x : Executed) (e : Execution) : Option Executed := do
  let v ← e.vaa hexToAddress
  let call ← entryPoint e.message.payload (marshal v) e.new
  let world ← Alephium.step crypto distance x.world ⟨e.now, call⟩
  return x.after e.message world

/-- A quorum of the current guardian set has signed, in order. -/
structure SignedByCurrent (s : Governance.State) (v : VAA) : Prop where
  ascending : v.signatures.Pairwise (·.index < ·.index)
  member : ∀ sig ∈ v.signatures, sig.index.toNat < 19 ∧ sig.index.toNat < s.guardianSetSizes 1
  valid : ∀ sig ∈ v.signatures,
    crypto.ethEcRecover (crypto.keccak256 (crypto.keccak256 (serializeBody v))) sig.signature.val
      = some (s.guardianSets 1 (signer sig))
  reached : quorum (s.guardianSetSizes 1) ≤ v.signatures.length

/-- The node makes a VAA of the message, and it is signed by the current guardian set. -/
structure Ready (x : Executed) (e : Execution) : Prop where
  current : e.currentSetIndex.toNat = x.world.governance.guardianSetIndexes 1
  signed : ∃ v, e.vaa hexToAddress = some v ∧ SignedByCurrent crypto x.world.governance v
  time : e.now < 2 ^ 64
  new : x.world.contracts e.new = none

/-- The contracts as deployed, for the governance of the node. -/
structure Deployed (w : World) : Prop where
  governance : w.governance.governanceChainId = GovernanceChain.toNat ∧
    w.governance.governanceContract = GovernanceEmitter.val ∧ w.governance.sequence = Sequence.State.init
  tokenBridge : w.tokenBridge.governanceChainId = GovernanceChain.toNat ∧
    w.tokenBridge.governanceContractId = GovernanceEmitter.val ∧ w.tokenBridge.replay = Sequence.State.init

/-- **What is accepted**: a guardian set update whose number is admitted by the window of the `Governance`
contract, unless the indexes are used up; and a registration of another chain with the module of the token
bridge, whose number is admitted by the window of the `TokenBridge`. -/
def Admitted (x : Executed) (e : Execution) : Prop :=
  haveI := Alephium.Governance.neZero_two
  match e.message.payload with
  | .guardianSet _ =>
    Acceptable distance x.governed x.world.governance.sequence.next e.message.sequence.toNat ∧
      x.world.governance.guardianSetIndexes 1 + 1 < 2 ^ 32
  | .bridgeRegisterChain module' chainId _ =>
    Acceptable distance x.registered x.world.tokenBridge.replay.next e.message.sequence.toNat ∧
      Guardian.bridgeModule module' = .ok TokenBridge.tokenBridgeModule ∧
      chainId.toNat ≠ x.world.tokenBridge.localChainId
  | .contractUpgrade _ _ => False
  | .bridgeContractUpgrade _ _ _ => False

end Step

variable {hexToAddress : List UInt8 → Option EthAddress} {crypto : Crypto} {distance : Nat}

/-! ## The VAAs of the node -/

section Made

variable {addrs keys : List EthAddress} {guardians : List Guardian.SetUpdateGuardian} {i : Nat}
  {message : GovernanceMessage} {index : UInt32} {v : VAA}

theorem readGuardians_length (h : Guardian.readGuardians hexToAddress i addrs guardians = .ok keys) :
    keys.length = addrs.length := by
  induction guardians generalizing i addrs with
  | nil =>
    rw [← Go.ok.inj h]
  | cons g guardians ih =>
    unfold Guardian.readGuardians at h
    split at h
    · cases h
    · obtain ⟨_, -, hrest⟩ := Go.bind_eq_ok.mp h
      rw [ih hrest, List.length_set]

theorem guardianSet_toVAA (hpayload : message.payload = .guardianSet guardians)
    (h : message.toVAA hexToAddress index = .ok v) : ∃ b : BodyGuardianSetUpdate, 1 ≤ b.keys.length ∧
      b.keys.length ≤ 19 ∧ b.newIndex = index + 1 ∧
      v = CreateGovernanceVAA message.nonce message.sequence index (updatePayload b) := by
  unfold GovernanceMessage.toVAA at h
  rw [hpayload] at h
  dsimp only at h
  unfold Guardian.adminGuardianSetUpdateToVAA at h
  split at h
  · cases h
  · rename_i hpos
    split at h
    · cases h
    · rename_i hle
      obtain ⟨keys, hkeys, heq⟩ := Go.bind_eq_ok.mp h
      have hlength := readGuardians_length hkeys
      rw [List.length_replicate] at hlength
      rw [Guardian.MaxGuardianCount] at hle
      refine ⟨⟨keys, index + 1⟩, ?_, ?_, rfl, ?_⟩
      · show 1 ≤ keys.length
        omega
      · show keys.length ≤ 19
        omega
      · rw [← update_serialize]
        exact (Go.ok.inj heq).symm

theorem registerChain_toVAA {module' emitterAddress : List UInt8} {chainId : UInt32}
    (hpayload : message.payload = .bridgeRegisterChain module' chainId emitterAddress)
    (h : message.toVAA hexToAddress index = .ok v) :
    ∃ (r : BodyTokenBridgeRegisterChain) (bytes : List UInt8), r.module' = module' ∧
      r.chainID.toNat = chainId.toNat ∧ r.serialize = .ok bytes ∧
      v = CreateGovernanceVAA message.nonce message.sequence index bytes := by
  unfold GovernanceMessage.toVAA at h
  rw [hpayload] at h
  dsimp only at h
  obtain ⟨chainID, hchain, h⟩ := Go.bind_eq_ok.mp h
  obtain ⟨address, -, h⟩ := Go.bind_eq_ok.mp h
  obtain ⟨bytes, hbytes, heq⟩ := Go.bind_eq_ok.mp h
  refine ⟨⟨module', chainID, address⟩, bytes, rfl, ?_, hbytes, (Go.ok.inj heq).symm⟩
  unfold Guardian.readChainID at hchain
  split at hchain
  · cases hchain
  · rename_i hle
    rw [← Go.ok.inj hchain, UInt16.toNat_ofNat']
    exact Nat.mod_eq_of_lt (by omega)

end Made

/-! ## The contracts on them -/

section Contracts

variable {s t : Governance.State} {now nonce : Nat} {v : VAA}

/-- The fields of a governance VAA that the contracts look at before its payload. -/
structure Made (v : VAA) (index : UInt32) (sequence : UInt64) (payload : List UInt8) : Prop where
  version : v.version = Guardian.SupportedVAAVersion
  guardianSetIndex : v.guardianSetIndex = index
  timestamp : v.timestamp = { unix := 0, nanosecond := 0 }
  sequence : v.sequence = sequence
  emitterChain : v.emitterChain = GovernanceChain
  emitterAddress : v.emitterAddress = GovernanceEmitter
  payload : v.payload = payload

theorem made_of_vaa {e : Execution} {made : VAA} {payload : List UInt8} {nonce : UInt32}
    (hv : e.vaa hexToAddress = some v) (hmade : e.message.toVAA hexToAddress e.currentSetIndex = .ok made)
    (hcreate : made = CreateGovernanceVAA nonce e.message.sequence e.currentSetIndex payload) :
    Made v e.currentSetIndex e.message.sequence payload := by
  unfold Execution.vaa at hv
  rw [hmade] at hv
  rw [← Option.some.inj hv, hcreate]
  exact ⟨rfl, rfl, rfl, rfl, rfl, rfl, rfl⟩

/-- The set that has signed is the one that is current. -/
theorem SignedByCurrent.wellSigned (now : Nat) {index : UInt32} {sequence : UInt64} {payload : List UInt8}
    (h : SignedByCurrent crypto s v) (hmade : Made v index sequence payload)
    (hindex : index.toNat = s.guardianSetIndexes 1) (hcurrent : t.current = s.current) :
    WellSigned crypto t now (s.guardianSets 1) (s.guardianSetSizes 1) v := by
  obtain ⟨hkeys, hnumber, hsize⟩ := Governance.GuardianSet.mk.inj hcurrent
  refine ⟨hmade.version, .inl ⟨?_, hkeys.symm, hsize.symm⟩, h.ascending, ?_, ?_, h.valid, h.reached, ?_, ?_⟩
  · rw [hmade.guardianSetIndex, hindex]
    exact hnumber.symm
  · exact fun sig hsig => (h.member sig hsig).1
  · exact fun sig hsig => (h.member sig hsig).2
  · rw [hmade.timestamp]
  · rw [hmade.timestamp]
    exact ⟨le_refl _, by norm_num⟩

/-- A body that starts with a zero follows the signatures: the first of them has an index. -/
theorem SignedByCurrent.not_swallowed {index : UInt32} {sequence : UInt64} {payload : List UInt8}
    (h : SignedByCurrent crypto s v) (hmade : Made v index sequence payload) : ¬Swallowed v := by
  rintro ⟨-, hafter⟩
  have hpos : 0 < v.signatures.length := Nat.lt_of_lt_of_le (Nat.succ_pos _) h.reached
  obtain ⟨sig, hsig⟩ := List.exists_mem_of_length_pos hpos
  have hneg := hafter sig hsig
  rw [hmade.timestamp] at hneg
  norm_num at hneg
  omega

/-- What is parsed of it. -/
def bodyOf (sequence : UInt64) (payload : List UInt8) : Governance.Body where
  emitterChainId := GovernanceChain.toNat
  emitterAddress := GovernanceEmitter.val
  sequence := sequence.toNat
  payload := payload

theorem SignedByCurrent.parse (now : Nat) {index : UInt32} {sequence : UInt64} {payload : List UInt8}
    (h : SignedByCurrent crypto s v) (hmade : Made v index sequence payload)
    (hindex : index.toNat = s.guardianSetIndexes 1) (hcurrent : t.current = s.current)
    (checkGuardianSetIndex : Bool) :
    Governance.parseAndVerifySignatures crypto t now (marshal v) checkGuardianSetIndex =
        some (serializeBody v) ∧
      Governance.parseBody (serializeBody v) = some (bodyOf sequence payload) := by
  have hsigned := h.wellSigned now hmade hindex hcurrent
  constructor
  · refine (hsigned.parse_iff ?_).mpr (h.not_swallowed hmade)
    intro _
    rw [hmade.guardianSetIndex, hindex]
    exact congrArg Governance.GuardianSet.index hcurrent.symm
  · rw [parseBody_serializeBody, hmade.emitterChain, hmade.emitterAddress, hmade.sequence, hmade.payload]
    rfl

/-- **The `Governance` contract** takes the payload of a VAA whose number the window takes. -/
theorem verifyGovernanceVAA_eq (distance now : Nat) {index : UInt32} {sequence : UInt64} {payload : List UInt8}
    (h : SignedByCurrent crypto s v) (hmade : Made v index sequence payload)
    (hindex : index.toNat = s.guardianSetIndexes 1) (hcurrent : t.current = s.current)
    (hchain : t.governanceChainId = GovernanceChain.toNat)
    (hcontract : t.governanceContract = GovernanceEmitter.val) :
    verifyGovernanceVAA crypto distance t now (marshal v) =
      (Sequence.call distance t.sequence sequence.toNat).map fun replay =>
        ({ t with sequence := replay }, payload) := by
  obtain ⟨hparse, hbody⟩ := h.parse now hmade hindex hcurrent true
  have hchain' : (bodyOf sequence payload).emitterChainId = t.governanceChainId := hchain.symm
  have hcontract' : (bodyOf sequence payload).emitterAddress = t.governanceContract := hcontract.symm
  rw [verifyGovernanceVAA, hparse, some_bind, hbody, some_bind, assert_true hchain', some_bind,
    assert_true hcontract', some_bind, Sequence.call]
  show (Sequence.checkSequence distance t.sequence sequence.toNat >>= _) = _
  cases Sequence.checkSequence distance t.sequence sequence.toNat with
  | none => rfl
  | some result => rfl

/-- **The `TokenBridge`** as well. -/
theorem bridge_verifyGovernanceVAA_eq (distance : Nat) (sequence : UInt64) (payload : List UInt8)
    {b : TokenBridge.State} (hchain : b.governanceChainId = GovernanceChain.toNat)
    (hcontract : b.governanceContractId = GovernanceEmitter.val) :
    TokenBridge.verifyGovernanceVAA distance b (bodyOf sequence payload) =
      (Sequence.call distance b.replay sequence.toNat).map fun replay => ({ b with replay }, payload) := by
  have hchain' : (bodyOf sequence payload).emitterChainId = b.governanceChainId := hchain.symm
  have hcontract' : (bodyOf sequence payload).emitterAddress = b.governanceContractId := hcontract.symm
  rw [TokenBridge.verifyGovernanceVAA, assert_true hchain', some_bind, assert_true hcontract', some_bind,
    Sequence.call]
  show (Sequence.checkSequence distance b.replay sequence.toNat >>= _) = _
  cases Sequence.checkSequence distance b.replay sequence.toNat with
  | none => rfl
  | some result => rfl

/-- The previous set is replaced first. -/
theorem updatePreviousGuardianSet_isSome (s : Governance.State) (htime : now < 2 ^ 64) :
    ∃ t, Governance.updatePreviousGuardianSet s now = some t ∧ t.current = s.current ∧
      t.sequence = s.sequence ∧ t.governanceChainId = s.governanceChainId ∧
      t.governanceContract = s.governanceContract := by
  have hadd : U256.add now 86400000 = some (now + 86400000) := U256.add_of_lt (by omega)
  have hupdate : ∃ t, Governance.updatePreviousGuardianSet s now = some t ∧ t.sequence = s.sequence ∧
      t.governanceChainId = s.governanceChainId ∧ t.governanceContract = s.governanceContract := by
    rw [Governance.updatePreviousGuardianSet, hadd, some_bind]
    exact ⟨_, rfl, rfl, rfl, rfl⟩
  obtain ⟨t, ht, hsame⟩ := hupdate
  exact ⟨t, ht, (Governance.updatePreviousGuardianSet_eq_some ht).1, hsame⟩

/-- The index of an executed update fits in four bytes. -/
theorem updateGuardianSet_index_lt {vaa : ByteVec}
    (h : updateGuardianSet crypto distance s now vaa = some t) : s.guardianSetIndexes 1 + 1 < 2 ^ 32 := by
  have hrotated := Governance.rotated h
  obtain ⟨payload, -, hnames⟩ := hrotated.current
  have hindex : beNat ((payload.drop 35).take 4) = s.guardianSetIndexes 1 + 1 :=
    hnames.index.trans hrotated.index
  have hlength : ((payload.drop 35).take 4).length = 4 := by
    have htotal := hnames.length
    rw [List.length_take, List.length_drop]
    omega
  have hlt := beNat_lt ((payload.drop 35).take 4)
  rw [hindex, hlength] at hlt
  exact hlt

/-- **A guardian set update** of the node, executed. -/
theorem updateGuardianSet_cases (distance : Nat) {index : UInt32} {sequence : UInt64} {b : BodyGuardianSetUpdate}
    (h : SignedByCurrent crypto s v) (hmade : Made v index sequence (updatePayload b))
    (hindex : index.toNat = s.guardianSetIndexes 1) (hpos : 1 ≤ b.keys.length) (hkeys : b.keys.length ≤ 19)
    (hnew : b.newIndex = index + 1) (hchain : s.governanceChainId = GovernanceChain.toNat)
    (hcontract : s.governanceContract = GovernanceEmitter.val) (htime : now < 2 ^ 64) :
    ((updateGuardianSet crypto distance s now (marshal v)).isSome ↔
      (Sequence.call distance s.sequence sequence.toNat).isSome ∧ s.guardianSetIndexes 1 + 1 < 2 ^ 32) ∧
    ∀ s', updateGuardianSet crypto distance s now (marshal v) = some s' →
      Sequence.call distance s.sequence sequence.toNat = some s'.sequence ∧
      s'.governanceChainId = s.governanceChainId ∧ s'.governanceContract = s.governanceContract := by
  obtain ⟨t, ht, hcurrent, hsequence, hchain', hcontract'⟩ := updatePreviousGuardianSet_isSome s htime
  have hverify := verifyGovernanceVAA_eq distance now h hmade hindex hcurrent
    (hchain'.trans hchain) (hcontract'.trans hcontract)
  rw [hsequence] at hverify
  cases hcall : Sequence.call distance s.sequence sequence.toNat with
  | none =>
    have hnone : updateGuardianSet crypto distance s now (marshal v) = none := by
      rw [updateGuardianSet, ht, some_bind, hverify, hcall]
      rfl
    rw [hnone]
    exact ⟨by simp, by simp⟩
  | some replay =>
    rw [hcall] at hverify
    have hindexes : t.guardianSetIndexes 1 = index.toNat :=
      (congrArg Governance.GuardianSet.index hcurrent).trans hindex.symm
    by_cases hlt : s.guardianSetIndexes 1 + 1 < 2 ^ 32
    · have hnext : b.newIndex.toNat = t.guardianSetIndexes 1 + 1 := by
        rw [hnew, hindexes, UInt32.toNat_add]
        exact Nat.mod_eq_of_lt (by rw [hindex]; exact hlt)
      have hupdate := alephium_update b hpos hkeys ht hverify hnext
      rw [hupdate]
      refine ⟨iff_of_true rfl ⟨rfl, hlt⟩, ?_⟩
      intro s' hs'
      obtain rfl := Option.some.inj hs'
      exact ⟨rfl, hchain', hcontract'⟩
    · have hnone : updateGuardianSet crypto distance s now (marshal v) = none := by
        apply Option.eq_none_iff_forall_ne_some.mpr
        intro s' hs'
        exact hlt (updateGuardianSet_index_lt hs')
      rw [hnone]
      exact ⟨iff_of_false Bool.false_ne_true (fun h => hlt h.2), by simp⟩

/-- The payload of a registration starts with the padded module. -/
theorem serialize_header {r : BodyTokenBridgeRegisterChain} {bytes : List UInt8}
    (hbytes : r.serialize = .ok bytes) : ∃ header : FixedBytes 32,
      Guardian.bridgeModule r.module' = .ok header.val ∧
      bytes = GovernanceHeader.payload header 1 0 (registerFields r) := by
  obtain ⟨hle, rfl⟩ := Guardian.BodyTokenBridgeRegisterChain.serialize_eq_ok.mp hbytes
  have hlength : (List.replicate (32 - r.module'.length) 0x00 ++ r.module').length = 32 := by
    rw [List.length_append, List.length_replicate]
    omega
  refine ⟨⟨_, hlength⟩, if_neg (Nat.not_lt.mpr hle), ?_⟩
  rfl

/-- **A registration** of the node, executed. -/
theorem registerChain_cases (distance : Nat) (self : ContractId) (sequence : UInt64) {b : TokenBridge.State}
    {r : BodyTokenBridgeRegisterChain} {bytes : List UInt8} (hbytes : r.serialize = .ok bytes)
    (hchain : b.governanceChainId = GovernanceChain.toNat)
    (hcontract : b.governanceContractId = GovernanceEmitter.val) :
    ((TokenBridge.registerChain distance self b (bodyOf sequence bytes)).isSome ↔
      (Sequence.call distance b.replay sequence.toNat).isSome ∧
        Guardian.bridgeModule r.module' = .ok TokenBridge.tokenBridgeModule ∧
        r.chainID.toNat ≠ b.localChainId) ∧
    ∀ b' new, TokenBridge.registerChain distance self b (bodyOf sequence bytes) = some (b', new) →
      Sequence.call distance b.replay sequence.toNat = some b'.replay ∧
      b'.governanceChainId = b.governanceChainId ∧ b'.governanceContractId = b.governanceContractId := by
  obtain ⟨header, hheader, rfl⟩ := serialize_header hbytes
  have hverify := bridge_verifyGovernanceVAA_eq distance sequence
    (GovernanceHeader.payload header 1 0 (registerFields r)) hchain hcontract
  have hnone : TokenBridge.parseRegisterChain distance b
      (bodyOf sequence (GovernanceHeader.payload header 1 0 (registerFields r))) = none →
      TokenBridge.registerChain distance self b
        (bodyOf sequence (GovernanceHeader.payload header 1 0 (registerFields r))) = none := by
    intro hparse
    rw [TokenBridge.registerChain, hparse]
    rfl
  cases hcall : Sequence.call distance b.replay sequence.toNat with
  | none =>
    rw [hcall] at hverify
    rw [hnone (by rw [TokenBridge.parseRegisterChain, hverify]; rfl)]
    exact ⟨by simp, by simp⟩
  | some replay =>
    rw [hcall] at hverify
    by_cases hmodule : header.val = TokenBridge.tokenBridgeModule
    · obtain rfl : header = GovernancePayloads.bridgeModule := Subtype.ext hmodule
      have hparse := alephium_register r hverify
      by_cases hlocal : r.chainID.toNat ≠ b.localChainId
      · rw [if_pos hlocal] at hparse
        have hregister : ∃ new, TokenBridge.registerChain distance self b (bodyOf sequence
            (GovernanceHeader.payload GovernancePayloads.bridgeModule 1 0 (registerFields r))) =
              some ({ b with replay }, new) := by
          rw [TokenBridge.registerChain, hparse, some_bind]
          dsimp only
          rw [assert_true hlocal]
          exact ⟨_, rfl⟩
        obtain ⟨new, hnew⟩ := hregister
        rw [hnew]
        refine ⟨iff_of_true rfl ⟨rfl, hheader, hlocal⟩, ?_⟩
        rintro b' new' heq
        obtain ⟨rfl, -⟩ := Prod.mk.inj (Option.some.inj heq)
        exact ⟨rfl, rfl, rfl⟩
      · rw [if_neg hlocal] at hparse
        rw [hnone hparse]
        exact ⟨iff_of_false Bool.false_ne_true (fun h => hlocal h.2.2), by simp⟩
    · have hcheck : TokenBridge.checkModuleAndAction
          (GovernanceHeader.payload header 1 0 (registerFields r)) 0 [0x01] = none := by
        rw [TokenBridge.checkModuleAndAction, GovernanceHeader.byteVecSlice_module, some_bind,
          assert_false hmodule]
        rfl
      rw [hnone (by rw [TokenBridge.parseRegisterChain, hverify]; exact congrArg (· >>= _) hcheck)]
      refine ⟨iff_of_false Bool.false_ne_true (fun h => hmodule ?_), by simp⟩
      exact Go.ok.inj (hheader.symm.trans h.2.1)

end Contracts

/-! ## Every run -/

section Runs

variable {x x' : Executed} {e : Execution} {v : VAA}

/-- Both windows are in step with what has been executed. -/
structure Governs (distance : Nat) (x : Executed) : Prop where
  chain : x.world.governance.governanceChainId = GovernanceChain.toNat
  contract : x.world.governance.governanceContract = GovernanceEmitter.val
  governed : Window distance x.governed x.world.governance.sequence
  bridgeChain : x.world.tokenBridge.governanceChainId = GovernanceChain.toNat
  bridgeContract : x.world.tokenBridge.governanceContractId = GovernanceEmitter.val
  registered : Window distance x.registered x.world.tokenBridge.replay

theorem Governs.start {w : World} (h : Deployed w) : Governs distance ⟨w, [], []⟩ := by
  obtain ⟨⟨hchain, hcontract, hsequence⟩, hchain', hcontract', hreplay⟩ := h
  refine ⟨hchain, hcontract, ?_, hchain', hcontract', ?_⟩
  · rw [hsequence]
    exact Window.init distance
  · rw [hreplay]
    exact Window.init distance

theorem toVAA_of_vaa (hv : e.vaa hexToAddress = some v) :
    ∃ made, e.message.toVAA hexToAddress e.currentSetIndex = .ok made := by
  unfold Execution.vaa at hv
  split at hv
  · rename_i made hmade
    exact ⟨made, hmade⟩
  · cases hv

/-- An update is a call of the `Governance` contract. -/
theorem step_guardianSet {guardians : List Guardian.SetUpdateGuardian}
    (hpayload : e.message.payload = .guardianSet guardians) (hv : e.vaa hexToAddress = some v) :
    step hexToAddress crypto distance x e =
      (updateGuardianSet crypto distance x.world.governance e.now (marshal v)).map fun governance =>
        ⟨{ x.world with governance }, x.governed ++ [e.message.sequence.toNat], x.registered⟩ := by
  have hentry : entryPoint e.message.payload (marshal v) e.new = some (.updateGuardianSet (marshal v)) := by
    rw [hpayload]
    rfl
  rw [step, hv, some_bind, hentry, some_bind, Alephium.step]
  show (updateGuardianSet crypto distance x.world.governance e.now (marshal v) >>= _) >>= _ = _
  cases updateGuardianSet crypto distance x.world.governance e.now (marshal v) with
  | none => rfl
  | some governance =>
    show some (x.after e.message _) = some _
    rw [Executed.after, hpayload]

/-- A registration is a call of the `TokenBridge`. -/
theorem step_registerChain {module' emitterAddress : List UInt8} {chainId : UInt32} {msg : Governance.Body}
    (hpayload : e.message.payload = .bridgeRegisterChain module' chainId emitterAddress)
    (hv : e.vaa hexToAddress = some v)
    (hmsg : Governance.parseAndVerifyVAA crypto x.world.governance e.now (marshal v) = some msg)
    (hnew : x.world.contracts e.new = none) :
    step hexToAddress crypto distance x e =
      (TokenBridge.registerChain distance x.world.tokenBridgeId x.world.tokenBridge msg).map
        fun (tokenBridge, s) =>
          ⟨({ x.world with tokenBridge }.set e.new (.tokenBridgeForChain s)).record
            (.tokenBridgeForChainCreated e.new), x.governed, x.registered ++ [e.message.sequence.toNat]⟩ := by
  have hentry : entryPoint e.message.payload (marshal v) e.new =
      some (.registerChain (marshal v) e.new) := by
    rw [hpayload]
    rfl
  rw [step, hv, some_bind, hentry, some_bind, Alephium.step]
  show Alephium.registerChain crypto distance x.world e.now (marshal v) e.new >>= _ = _
  rw [Alephium.registerChain, hmsg, some_bind]
  cases TokenBridge.registerChain distance x.world.tokenBridgeId x.world.tokenBridge msg with
  | none => rfl
  | some result =>
    obtain ⟨tokenBridge, s⟩ := result
    rw [some_bind]
    dsimp only
    rw [assert_true hnew, some_bind]
    show some (x.after e.message _) = some _
    rw [Executed.after, hpayload]

/-- An upgrade is nothing. -/
theorem step_upgrade (hpayload : entryPoint e.message.payload = fun _ _ => none) :
    step hexToAddress crypto distance x e = none := by
  rw [step, hpayload]
  cases e.vaa hexToAddress with
  | none => rfl
  | some v => rfl

/-- **One VAA**: when it is executed, and what its execution keeps. -/
theorem Governs.step_cases (hinv : Governs distance x) (hD : distance + 2 ^ 64 ≤ 2 ^ 256)
    (hready : Ready hexToAddress crypto x e) :
    ((step hexToAddress crypto distance x e).isSome ↔ Admitted distance x e) ∧
      ∀ x', step hexToAddress crypto distance x e = some x' → Governs distance x' := by
  obtain ⟨v, hv, hsigned⟩ := hready.signed
  obtain ⟨made, hmade⟩ := toVAA_of_vaa hv
  have hlt : e.message.sequence.toNat < 2 ^ 64 := e.message.sequence.toNat_lt
  unfold Admitted
  cases hpayload : e.message.payload with
  | guardianSet guardians =>
    obtain ⟨b, hpos, hkeys, hnewIndex, hcreate⟩ := guardianSet_toVAA hpayload hmade
    have hfields := made_of_vaa hv hmade hcreate
    obtain ⟨hisSome, hcases⟩ := updateGuardianSet_cases distance hsigned hfields hready.current hpos hkeys
      hnewIndex hinv.chain hinv.contract hready.time
    rw [step_guardianSet hpayload hv, Option.isSome_map, hisSome, hinv.governed.call_isSome hD hlt]
    refine ⟨Iff.rfl, ?_⟩
    intro x' hx'
    obtain ⟨governance, hgovernance, rfl⟩ := Option.map_eq_some_iff.mp hx'
    obtain ⟨hcall, hchain, hcontract⟩ := hcases governance hgovernance
    exact ⟨hchain.trans hinv.chain, hcontract.trans hinv.contract, hinv.governed.call_some hD hlt hcall,
      hinv.bridgeChain, hinv.bridgeContract, hinv.registered⟩
  | bridgeRegisterChain module' chainId emitterAddress =>
    obtain ⟨r, bytes, rfl, hchainID, hbytes, hcreate⟩ := registerChain_toVAA hpayload hmade
    have hfields := made_of_vaa hv hmade hcreate
    obtain ⟨hparse, hbody⟩ := hsigned.parse e.now hfields hready.current rfl false
    have hmsg : Governance.parseAndVerifyVAA crypto x.world.governance e.now (marshal v) =
        some (bodyOf e.message.sequence bytes) := by
      rw [Governance.parseAndVerifyVAA, hparse, some_bind, hbody]
    obtain ⟨hisSome, hcases⟩ := registerChain_cases distance x.world.tokenBridgeId e.message.sequence hbytes
      hinv.bridgeChain hinv.bridgeContract
    rw [step_registerChain hpayload hv hmsg hready.new, Option.isSome_map, hisSome, hchainID,
      hinv.registered.call_isSome hD hlt]
    refine ⟨Iff.rfl, ?_⟩
    intro x' hx'
    obtain ⟨⟨tokenBridge, s⟩, hregister, rfl⟩ := Option.map_eq_some_iff.mp hx'
    obtain ⟨hcall, hchain, hcontract⟩ := hcases tokenBridge s hregister
    exact ⟨hinv.chain, hinv.contract, hinv.governed, hchain.trans hinv.bridgeChain,
      hcontract.trans hinv.bridgeContract, hinv.registered.call_some hD hlt hcall⟩
  | contractUpgrade chainId newContract =>
    rw [step_upgrade (by rw [hpayload]; rfl)]
    exact ⟨iff_of_false Bool.false_ne_true id, by simp⟩
  | bridgeContractUpgrade module' targetChainId newContract =>
    rw [step_upgrade (by rw [hpayload]; rfl)]
    exact ⟨iff_of_false Bool.false_ne_true id, by simp⟩

theorem Governs.run {w : World} (h : Deployed w) (hD : distance + 2 ^ 64 ≤ 2 ^ 256)
    (hrun : Run (step hexToAddress crypto distance) (Ready hexToAddress crypto) ⟨w, [], []⟩ x) :
    Governs distance x :=
  hrun.invariant (fun _ _ _ hinv hready hstep => (hinv.step_cases hD hready).2 _ hstep) (.start h)

/-- **Governance of Alephium.** After every run of governance VAAs of the node, each signed by a quorum of the
guardian set that was current, the next such VAA is executed if and only if it is a guardian set update or a
registration that is admitted. -/
theorem governanceVaa_accepted_iff {w : World} (h : Deployed w) (hD : distance + 2 ^ 64 ≤ 2 ^ 256)
    (hrun : Run (step hexToAddress crypto distance) (Ready hexToAddress crypto) ⟨w, [], []⟩ x)
    (hready : Ready hexToAddress crypto x e) :
    (step hexToAddress crypto distance x e).isSome ↔ Admitted distance x e :=
  ((Governs.run h hD hrun).step_cases hD hready).1

end Runs

/-! ## A random number -/

/-- The world, deployed for the governance of the node. -/
def deployedWorld : World :=
  { freshWorld with
    governance := { Governance.oneGuardian with
      governanceContract := GovernanceEmitter.val }
    tokenBridge := { freshWorld.tokenBridge with
      governanceContractId := GovernanceEmitter.val } }

theorem deployedWorld_deployed : Deployed deployedWorld := ⟨⟨rfl, rfl, rfl⟩, ⟨rfl, rfl, rfl⟩⟩

/-- The registration of the token bridge of chain 2. -/
def sampleExecution (sequence : UInt64) : Execution where
  message := ⟨sequence, 5, .bridgeRegisterChain bridgeName 2 (List.replicate 64 0x30)⟩
  currentSetIndex := 0
  signatures := [{ index := 0, signature := ⟨List.replicate 65 0x07, sampleVaa_signature_length⟩ }]
  now := 5
  new := sampleId 0xb0

theorem sampleExecution_ready (sequence : UInt64) :
    Ready (fun _ => none) Governance.Crypto.sample ⟨deployedWorld, [], []⟩ (sampleExecution sequence) where
  current := rfl
  signed := by
    refine ⟨_, rfl, List.pairwise_singleton _ _, ?_, ?_, by show quorum 1 ≤ 1; decide⟩
    · intro sig hsig
      obtain rfl := List.mem_singleton.mp hsig
      exact ⟨by decide, by decide⟩
    · intro sig hsig
      obtain rfl := List.mem_singleton.mp hsig
      rfl
  time := show 5 < 2 ^ 64 by decide
  new := show deployedWorld.contracts (sampleId 0xb0) = none by decide +kernel

/-- The number 767 is the largest that a new contract admits. -/
theorem sampleExecution_accepted :
    (step (fun _ => none) Governance.Crypto.sample 64 ⟨deployedWorld, [], []⟩ (sampleExecution 767)).isSome :=
  (governanceVaa_accepted_iff deployedWorld_deployed (by norm_num) (Run.refl _)
    (sampleExecution_ready 767)).mpr ⟨⟨List.not_mem_nil, .inl ⟨Nat.zero_le _, by decide⟩⟩, by decide, by decide⟩

/-- **The first governance VAA is refused** if its number is 768 or more, as almost all random numbers are. -/
theorem sampleExecution_refused : Deployed deployedWorld ∧
    Ready (fun _ => none) Governance.Crypto.sample ⟨deployedWorld, [], []⟩ (sampleExecution 768) ∧
    step (fun _ => none) Governance.Crypto.sample 64 ⟨deployedWorld, [], []⟩ (sampleExecution 768) = none := by
  refine ⟨deployedWorld_deployed, sampleExecution_ready 768, ?_⟩
  have hstart : Governs 64 ⟨deployedWorld, [], []⟩ := .start deployedWorld_deployed
  have hcases := hstart.step_cases (by norm_num) (sampleExecution_ready 768)
  apply Option.not_isSome_iff_eq_none.mp
  rw [hcases.1]
  rintro ⟨⟨-, ⟨-, hlt⟩ | ⟨hlt, -⟩⟩, -⟩
  · exact absurd hlt (by decide)
  · exact absurd hlt (by decide)

end Wormhole.GovernanceExecution
