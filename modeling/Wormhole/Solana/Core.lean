/-
# Wormhole.Solana.Core — the core program on Solana.

The handlers of `bridge/program/src/api`, each with the peeling of its accounts before and their persisting
behind it: the whole of what an instruction does to the ledger.  Upgrading the program itself is in
`Upgrades`; what runs then is another program.  `step` is one successful instruction, or a change of the ledger by
anyone else; an instruction that fails takes its transaction with it and changes nothing.

`verify_signatures` reads the instruction before its own, which the transaction's sysvar holds.  The
secp256k1 program has checked that instruction: `SecpVerifies` is what this means for a listed entry.
-/
import Mathlib
import Wormhole.Lib.Bytes
import Wormhole.Lib.Codec
import Wormhole.Solana.Payloads
import Wormhole.Solana.Solitaire
import Wormhole.Solana.Accounts

namespace Wormhole.Solana

open Wormhole.Lib Wormhole.Lib.Bytes

/-- The core program, and what it uses. -/
structure CoreProgram (Pubkey : Type) extends Program Pubkey where
  /-- the address of the sysvar -/
  rent : Pubkey
  secp256k1Program : Pubkey
  keccak256 : List UInt8 → FixedBytes 32
  /-- the variable at compile time -/
  EMITTER_ADDRESS : Option (FixedBytes 32)

/-- Among the seeds in use are those of the accounts of which there is one, and those of the guardian sets. -/
structure CoreProgram.CollisionFree {Pubkey : Type} (P : CoreProgram Pubkey) (used : Set (List (List UInt8))) : Prop
    extends P.toProgram.CollisionFree used where
  bridge : [bridgeSeed] ∈ used
  feeCollector : [feeCollectorSeed] ∈ used
  guardianSet : ∀ index, guardianSetSeeds index ∈ used

def MAX_LEN_GUARDIAN_KEYS : Nat := 19

/-- `as u32` of a clock time. -/
def asU32 (unixTimestamp : Int) : UInt32 := UInt32.ofNat (unixTimestamp % 2 ^ 32).toNat

/-- `as_u64`, of a 256-bit number. -/
def asU64 (n : Nat) : Result UInt64 := if n < 2 ^ 64 then .ok (UInt64.ofNat n) else .error .panicked

/-- A list, as a `Vec`; longer ones do not fit into memory. -/
def toVec {α : Type} (l : List α) : Result (Vec α) :=
  if h : l.length < 2 ^ 32 then .ok ⟨l, h⟩ else .error .panicked

/-! ## Accounts and data of the instructions -/

/-- `ClaimableVAA`: a posted message and the account of its claim. -/
structure ClaimableVAA (Pubkey : Type) where
  message : AccountMeta Pubkey
  claim : AccountMeta Pubkey

structure Initialize (Pubkey : Type) where
  bridge : AccountMeta Pubkey
  guardianSet : AccountMeta Pubkey
  feeCollector : AccountMeta Pubkey
  payer : AccountMeta Pubkey
  clock : AccountMeta Pubkey

structure InitializeData where
  guardianSetExpirationTime : UInt32
  fee : UInt64
  initialGuardians : Vec (FixedBytes 20)

structure PostMessage (Pubkey : Type) where
  bridge : AccountMeta Pubkey
  message : AccountMeta Pubkey
  emitter : AccountMeta Pubkey
  sequence : AccountMeta Pubkey
  payer : AccountMeta Pubkey
  feeCollector : AccountMeta Pubkey
  clock : AccountMeta Pubkey

inductive ConsistencyLevel where
  | Confirmed
  | Finalized
  deriving DecidableEq

structure PostMessageData where
  nonce : UInt32
  payload : Vec UInt8
  consistencyLevel : ConsistencyLevel

structure VerifySignatures (Pubkey : Type) where
  payer : AccountMeta Pubkey
  guardianSet : AccountMeta Pubkey
  signatureSet : AccountMeta Pubkey
  instructionAcc : AccountMeta Pubkey

/-- For each guardian the entry of its signature, or -1. -/
structure VerifySignaturesData where
  signers : {l : List Int8 // l.length = MAX_LEN_GUARDIAN_KEYS}

structure PostVAA (Pubkey : Type) where
  guardianSet : AccountMeta Pubkey
  bridgeInfo : AccountMeta Pubkey
  signatureSet : AccountMeta Pubkey
  message : AccountMeta Pubkey
  payer : AccountMeta Pubkey
  clock : AccountMeta Pubkey

structure PostVAAData where
  version : UInt8
  guardianSetIndex : UInt32
  timestamp : UInt32
  nonce : UInt32
  emitterChain : UInt16
  emitterAddress : FixedBytes 32
  sequence : UInt64
  consistencyLevel : UInt8
  payload : Vec UInt8

/-- The serialized VAA body. -/
def PostVAAData.body (vaa : PostVAAData) : List UInt8 :=
  beBytes 4 vaa.timestamp.toNat ++ (beBytes 4 vaa.nonce.toNat ++ (beBytes 2 vaa.emitterChain.toNat ++
    (vaa.emitterAddress.val ++ (beBytes 8 vaa.sequence.toNat ++ (beBytes 1 vaa.consistencyLevel.toNat ++
      vaa.payload.val)))))

structure SetFees (Pubkey : Type) where
  payer : AccountMeta Pubkey
  bridge : AccountMeta Pubkey
  vaa : ClaimableVAA Pubkey

structure TransferFees (Pubkey : Type) where
  payer : AccountMeta Pubkey
  bridge : AccountMeta Pubkey
  vaa : ClaimableVAA Pubkey
  feeCollector : AccountMeta Pubkey
  recipient : AccountMeta Pubkey
  rent : AccountMeta Pubkey

structure UpgradeGuardianSet (Pubkey : Type) where
  payer : AccountMeta Pubkey
  bridge : AccountMeta Pubkey
  vaa : ClaimableVAA Pubkey
  guardianSetOld : AccountMeta Pubkey
  guardianSetNew : AccountMeta Pubkey

/-- An instruction of the transaction, as the sysvar shows it. -/
structure Instruction (Pubkey : Type) where
  programId : Pubkey
  data : List UInt8
  deriving DecidableEq

/-! ## Claimable VAAs -/

section Claims

variable {Pubkey : Type} [DecidableEq Pubkey] (P : Program Pubkey)

namespace ClaimableVAA

/-- The peel, of a message that `bridge` owns, with the payload and the claim. -/
def peel {T : Type} (bridge : Pubkey) (L : Ledger Pubkey) (v : ClaimableVAA Pubkey)
    (deserialize : List UInt8 → Result T) : Result (MessageData × T × ClaimData) := do
  let data ← peelData PostedVAAData .initialized bridge L true v.message
  let payload ← deserialize data.message.payload.val
  peelMut v.claim
  let claim ← peelData ClaimData .uninitialized P.programId L false v.claim
  return (data.message, payload, claim)

/-- The seeds of the claim, of the message that is there. -/
def Derives (L : Ledger Pubkey) (v : ClaimableVAA Pubkey) (seeds : List (List UInt8)) : Prop :=
  ∃ m, MessageData.deserialize (L v.message.key).data = .ok m ∧ seeds = claimSeeds m

/-- `verify`: the claim account is derived correctly. -/
def verify (v : ClaimableVAA Pubkey) (m : MessageData) : Result Unit :=
  verifyDerivation P (claimSeeds m) v.claim

/-- `claim`. -/
def claimIt (L : Ledger Pubkey) (v : ClaimableVAA Pubkey) (payer : AccountMeta Pubkey) (m : MessageData)
    (claim : ClaimData) : Result (Ledger Pubkey × ClaimData) := do
  ensure (claim.claimed = false) Error.vaaAlreadyExecuted.into
  let L ← create P L payer v.claim (claimSeeds m) claim
  return (L, { claim with claimed := true })

end ClaimableVAA

end Claims

namespace Core

variable {Pubkey : Type} [DecidableEq Pubkey] (P : CoreProgram Pubkey)

def verifyGovernance (m : MessageData) : Result Unit :=
  match P.EMITTER_ADDRESS with
  | none => .error (.programError .uninitializedAccount)
  | some expected =>
    ensure (expected = m.emitterAddress ∧ m.emitterChain.toNat = CHAIN_ID_SOLANA)
      Error.invalidGovernanceKey.into

/-! ## initialize -/

def initializeBridge (L : Ledger Pubkey) (accs : Initialize Pubkey) (clock : Int) (data : InitializeData) :
    Result (Ledger Pubkey) := do
  peelMut accs.bridge
  peelDerive P.toProgram bridgeSeed accs.bridge
  let bridge ← peelData BridgeData .uninitialized P.programId L false accs.bridge
  peelMut accs.guardianSet
  let guardianSet ← peelData GuardianSetData .uninitialized P.programId L false accs.guardianSet
  peelMut accs.feeCollector
  peelDerive P.toProgram feeCollectorSeed accs.feeCollector
  peelMut accs.payer
  peelSigner accs.payer
  peelSysvar P.clock accs.clock
  ensure (data.initialGuardians.val.length ≤ MAX_LEN_GUARDIAN_KEYS) Error.tooManyGuardians.into
  let guardianSet := { guardianSet with
    index := 0
    creationTime := asU32 clock
    keys := data.initialGuardians }
  let L ← create P.toProgram L accs.payer accs.guardianSet (guardianSetSeeds 0) guardianSet
  let L ← create P.toProgram L accs.payer accs.bridge [bridgeSeed] bridge
  let L ← createAccount P.toProgram L accs.payer accs.feeCollector (some (P.derive [feeCollectorSeed]))
    (minimumBalance 0) 0 P.systemProgram
  let bridge := { bridge with
    guardianSetIndex := 0
    config := ⟨data.guardianSetExpirationTime, data.fee⟩
    lastLamports := UInt64.ofNat (L accs.feeCollector.key).lamports }
  let L ← persist P.toProgram L accs.bridge bridge
  persist P.toProgram L accs.guardianSet guardianSet

/-! ## post_message -/

/-- Init sequence tracker if it does not exist yet. -/
def openSequence (L : Ledger Pubkey) (accs : PostMessage Pubkey) (sequence : SequenceTracker) :
    Result (Ledger Pubkey) :=
  if isInitialized L accs.sequence then .ok L else
    create P.toProgram L accs.payer accs.sequence (sequenceSeeds (P.toBytes accs.emitter.key)) sequence

def postMessage (L : Ledger Pubkey) (accs : PostMessage Pubkey) (clock : Int) (data : PostMessageData) :
    Result (Ledger Pubkey) := do
  peelMut accs.bridge
  peelDerive P.toProgram bridgeSeed accs.bridge
  let bridge ← peelData BridgeData .initialized P.programId L false accs.bridge
  peelSigner accs.message
  peelMut accs.message
  let message ← peelData PostedMessageData .uninitialized P.programId L false accs.message
  peelSigner accs.emitter
  peelMut accs.sequence
  let sequence ← peelData SequenceTracker .maybeInitialized P.programId L false accs.sequence
  peelMut accs.payer
  peelSigner accs.payer
  peelMut accs.feeCollector
  peelDerive P.toProgram feeCollectorSeed accs.feeCollector
  peelSysvar P.clock accs.clock
  verifyDerivation P.toProgram (sequenceSeeds (P.toBytes accs.emitter.key)) accs.sequence
  ensure (bridge.lastLamports.toNat ≤ (L accs.feeCollector.key).lamports) Error.mathOverflow.into
  ensure (bridge.config.fee.toNat ≤ (L accs.feeCollector.key).lamports - bridge.lastLamports.toNat)
    Error.insufficientFees.into
  let bridge := { bridge with lastLamports := UInt64.ofNat (L accs.feeCollector.key).lamports }
  let L ← openSequence P L accs sequence
  let message : PostedMessageData := ⟨{ message.message with
    submissionTime := asU32 clock
    emitterChain := UInt16.ofNat CHAIN_ID_SOLANA
    emitterAddress := P.toBytes accs.emitter.key
    nonce := data.nonce
    payload := data.payload
    sequence := sequence.sequence
    consistencyLevel := match data.consistencyLevel with
      | .Confirmed => 1
      | .Finalized => 32 }⟩
  let size := (AccountData.serialize message).length
  let L ← createAccount P.toProgram L accs.payer accs.message none (minimumBalance size) size P.programId
  let sequence : SequenceTracker := ⟨sequence.sequence + 1⟩
  let L ← persist P.toProgram L accs.bridge bridge
  let L ← persist P.toProgram L accs.message message
  persist P.toProgram L accs.sequence sequence

/-! ## verify_signatures -/

/-- `SigInfo`: the signer in the guardian set, and its entry. -/
structure SigInfo where
  signerIndex : UInt8
  sigIndex : UInt8
  deriving DecidableEq

/-- The signers that are not missing. -/
def sigInfos (data : VerifySignaturesData) : List SigInfo :=
  data.signers.val.zipIdx.filterMap fun p =>
    if p.1 = -1 then none
    else some { signerIndex := UInt8.ofNat p.2
                sigIndex := p.1.toUInt8 }

/-- An entry of a secp256k1 instruction: where the parts are, as offsets in the data of instructions. -/
structure SecpEntry where
  sigIx : UInt8
  addressOffset : UInt16
  addressIx : UInt8
  msgOffset : UInt16
  msgSize : UInt16
  msgIx : UInt8
  deriving DecidableEq

/-- `LE::read_u16` of two bytes of the data. -/
def readU16At (data : List UInt8) (index : Nat) : Result UInt16 := do
  let bytes ← unwrap (slice? data index (index + 2))
  return UInt16.ofNat (beNat bytes.reverse)

def readU8At (data : List UInt8) (index : Nat) : Result UInt8 := unwrap data[index]?

/-- The entry at an index of the data. -/
def secpEntry (data : List UInt8) (index : Nat) : Result SecpEntry := do
  let _sigOffset ← readU16At data index
  let sigIx ← readU8At data (index + 2)
  let addressOffset ← readU16At data (index + 3)
  let addressIx ← readU8At data (index + 5)
  let msgOffset ← readU16At data (index + 6)
  let msgSize ← readU16At data (index + 8)
  let msgIx ← readU8At data (index + 10)
  return { sigIx, addressOffset, addressIx, msgOffset, msgSize, msgIx }

structure SecpInstructionPart where
  address : List UInt8
  msgOffset : UInt16
  msgSize : UInt16
  deriving DecidableEq

/-- One round of the loop over the entries; entry `i` starts at `1 + 11 * i`. -/
def secpPart (data : List UInt8) (secpIxIndex : UInt8) (secpIxs : List SecpInstructionPart) (i : Nat) :
    Result (List SecpInstructionPart) := do
  let e ← secpEntry data (1 + 11 * i)
  ensure (e.addressIx = secpIxIndex ∧ e.msgIx = secpIxIndex ∧ e.sigIx = secpIxIndex)
    Error.invalidSecpInstruction.into
  let address ← unwrap (slice? data e.addressOffset.toNat (e.addressOffset.toNat + 20))
  -- all messages are equal
  ensure (∀ first, secpIxs.head? = some first → e.msgOffset = first.msgOffset ∧ e.msgSize = first.msgSize)
    Error.invalidSecpInstruction.into
  return secpIxs ++ [{ address, msgOffset := e.msgOffset, msgSize := e.msgSize }]

def secpParts (data : List UInt8) (secpIxIndex : UInt8) (sigLen : UInt8) :
    Result (List SecpInstructionPart) :=
  (List.range sigLen.toNat).foldlM (secpPart data secpIxIndex) []

/-- The instruction before the current one, which must be of the secp256k1 program. -/
def secpInstruction (tx : List (Instruction Pubkey)) (secpIxIndex : UInt8) :
    Result (Instruction Pubkey) :=
  match tx[secpIxIndex.toNat]? with
  | none => .error (.programError .invalidAccountData)
  | some secpIx => do
    ensure (secpIx.programId = P.secp256k1Program) Error.invalidSecpInstruction.into
    ensure (2 ≤ secpIx.data.length) Error.invalidSecpInstruction.into
    return secpIx

/-- The hash that all entries are about. -/
def secpMessage (data : List UInt8) (secpIxs : List SecpInstructionPart) : Result (FixedBytes 32) := do
  let first ← unwrap secpIxs.head?
  ensure (first.msgSize = 32) (.programError .invalidArgument)
  let message ← unwrap (slice? data first.msgOffset.toNat (first.msgOffset + first.msgSize).toNat)
  if h : message.length = 32 then .ok ⟨message, h⟩ else .error .panicked

/-- The signature set is created, or must be of the same guardian set and the same hash. -/
def openSignatureSet (L : Ledger Pubkey) (accs : VerifySignatures Pubkey) (guardianSet : GuardianSetData)
    (signatureSet : SignatureSetData) (msgHash : FixedBytes 32) :
    Result (Ledger Pubkey × SignatureSetData) :=
  if isInitialized L accs.signatureSet then do
    ensure (signatureSet.guardianSetIndex = guardianSet.index) Error.guardianSetMismatch.into
    ensure (signatureSet.hash = msgHash) Error.invalidHash.into
    return (L, signatureSet)
  else do
    let signatureSet : SignatureSetData :=
      { signatures := ⟨List.replicate guardianSet.keys.val.length false, by
          rw [List.length_replicate]
          exact guardianSet.keys.property⟩
        guardianSetIndex := guardianSet.index
        hash := msgHash }
    let size := (AccountData.serialize signatureSet).length
    let L ← createAccount P.toProgram L accs.payer accs.signatureSet none (minimumBalance size) size
      P.programId
    return (L, signatureSet)

/-- One signer is checked and marked. -/
def markSigner (guardianSet : GuardianSetData) (secpIxs : List SecpInstructionPart) (sigLen : UInt8)
    (signatureSet : SignatureSetData) (s : SigInfo) : Result SignatureSetData := do
  ensure (s.signerIndex ≤ guardianSet.numGuardians) (.programError .invalidArgument)
  ensure (s.sigIndex + 1 ≤ sigLen) (.programError .invalidArgument)
  let key ← unwrap guardianSet.keys.val[s.signerIndex.toNat]?
  let part ← unwrap secpIxs[s.sigIndex.toNat]?
  ensure (key.val = part.address) (.programError .invalidArgument)
  ensure (s.signerIndex.toNat < signatureSet.signatures.val.length) .panicked
  return { signatureSet with
    signatures := ⟨signatureSet.signatures.val.set s.signerIndex.toNat true, by
      rw [List.length_set]
      exact signatureSet.signatures.property⟩ }

/-- `tx` and `current` are the transaction's instructions and the index of the current one. -/
def verifySignatures (L : Ledger Pubkey) (accs : VerifySignatures Pubkey) (tx : List (Instruction Pubkey))
    (current : UInt16) (data : VerifySignaturesData) : Result (Ledger Pubkey) := do
  peelMut accs.payer
  peelSigner accs.payer
  let guardianSet ← peelData GuardianSetData .initialized P.programId L true accs.guardianSet
  peelMut accs.signatureSet
  peelSigner accs.signatureSet
  let signatureSet ← peelData SignatureSetData .maybeInitialized P.programId L false accs.signatureSet
  peelInfo true accs.instructionAcc
  verifyDerivation P.toProgram (guardianSetSeeds guardianSet.index) accs.guardianSet
  ensure (accs.instructionAcc.key = P.instructions) (.programError .unsupportedSysvar)
  ensure (current ≠ 0) Error.instructionAtWrongIndex.into
  let secpIxIndex := (current - 1).toUInt8
  let secpIx ← secpInstruction P tx secpIxIndex
  let sigLen ← readU8At secpIx.data 0
  let secpIxs ← secpParts secpIx.data secpIxIndex sigLen
  ensure ((sigInfos data).length = secpIxs.length) (.programError .invalidArgument)
  let msgHash ← secpMessage secpIx.data secpIxs
  let opened ← openSignatureSet P L accs guardianSet signatureSet msgHash
  let marked ← (sigInfos data).foldlM (markSigner guardianSet secpIxs sigLen) opened.2
  persist P.toProgram opened.1 accs.signatureSet marked

/-! ## post_vaa -/

/-- A guardian set must not have expired. -/
def checkActive (guardianSet : GuardianSetData) (clock : Int) : Result Unit := do
  -- the initial guardian set was never expired, so it is blocked here
  ensure (¬(guardianSet.index = 0 ∧ guardianSet.creationTime = 1628099186))
    Error.postVAAGuardianSetExpired.into
  ensure (¬(guardianSet.expirationTime ≠ 0 ∧ (guardianSet.expirationTime.toNat : Int) < clock))
    Error.postVAAGuardianSetExpired.into

def checkValidSigs (guardianSet : GuardianSetData) (signatures : SignatureSetData) : Result Unit :=
  ensure (signatures.guardianSetIndex = guardianSet.index) Error.guardianSetMismatch.into

def checkIntegrity (vaa : PostVAAData) (signatures : SignatureSetData) : Result Unit :=
  ensure (signatures.hash = P.keccak256 vaa.body) (.programError .invalidAccountData)

/-- The fixed-point formula of the quorum. -/
def requiredConsensusCount (keys : Nat) : Nat := keys * 10 / 3 * 2 / 10 + 1

/-- What is persisted of a VAA. -/
def postedOf (message : PostedVAAData) (vaa : PostVAAData) (signatureAccount : FixedBytes 32) :
    PostedVAAData :=
  ⟨{ message.message with
    nonce := vaa.nonce
    emitterChain := vaa.emitterChain
    emitterAddress := vaa.emitterAddress
    sequence := vaa.sequence
    payload := vaa.payload
    consistencyLevel := vaa.consistencyLevel
    vaaVersion := vaa.version
    vaaTime := vaa.timestamp
    vaaSignatureAccount := signatureAccount }⟩

def postVaa (L : Ledger Pubkey) (accs : PostVAA Pubkey) (clock : Int) (vaa : PostVAAData) :
    Result (Ledger Pubkey) := do
  let guardianSet ← peelData GuardianSetData .initialized P.programId L true accs.guardianSet
  peelDerive P.toProgram bridgeSeed accs.bridgeInfo
  let _bridge ← peelData BridgeData .initialized P.programId L true accs.bridgeInfo
  let signatureSet ← peelData SignatureSetData .initialized P.programId L true accs.signatureSet
  peelMut accs.message
  let message ← peelData PostedVAAData .maybeInitialized P.programId L false accs.message
  peelMut accs.payer
  peelSigner accs.payer
  peelSysvar P.clock accs.clock
  verifyDerivation P.toProgram (postedVaaSeeds signatureSet.hash) accs.message
  verifyDerivation P.toProgram (guardianSetSeeds vaa.guardianSetIndex) accs.guardianSet
  if isInitialized L accs.message then persist P.toProgram L accs.message message else do
    checkActive guardianSet clock
    checkValidSigs guardianSet signatureSet
    checkIntegrity P vaa signatureSet
    ensure (requiredConsensusCount guardianSet.keys.val.length ≤ signatureSet.signatures.val.count true)
      Error.postVAAConsensusFailed.into
    let message := postedOf message vaa (P.toBytes accs.signatureSet.key)
    let L ← create P.toProgram L accs.payer accs.message (postedVaaSeeds signatureSet.hash) message
    persist P.toProgram L accs.message message

/-! ## Governance -/

def upgradeGuardianSet (L : Ledger Pubkey) (accs : UpgradeGuardianSet Pubkey) : Result (Ledger Pubkey) := do
  peelMut accs.payer
  peelSigner accs.payer
  peelMut accs.bridge
  peelDerive P.toProgram bridgeSeed accs.bridge
  let bridge ← peelData BridgeData .initialized P.programId L false accs.bridge
  let vaa ← accs.vaa.peel P.toProgram P.programId L GovernancePayloadGuardianSetChange.deserialize
  let newIndex := UInt32.ofNat vaa.2.1.newGuardianSetIndex
  peelMut accs.guardianSetOld
  let old ← peelData GuardianSetData .initialized P.programId L false accs.guardianSetOld
  peelMut accs.guardianSetNew
  let new ← peelData GuardianSetData .uninitialized P.programId L false accs.guardianSetNew
  ensure (old.index = newIndex - 1) Error.invalidGuardianSetUpgrade.into
  ensure (bridge.guardianSetIndex = newIndex - 1) Error.invalidGuardianSetUpgrade.into
  verifyGovernance P vaa.1
  accs.vaa.verify P.toProgram vaa.1
  verifyDerivation P.toProgram (guardianSetSeeds (newIndex - 1)) accs.guardianSetOld
  verifyDerivation P.toProgram (guardianSetSeeds newIndex) accs.guardianSetNew
  let claimed ← accs.vaa.claimIt P.toProgram L accs.payer vaa.1 vaa.2.2
  -- set the expiration time of the old set
  let old := { old with expirationTime := vaa.1.vaaTime + bridge.config.guardianSetExpirationTime }
  let keys ← toVec vaa.2.1.newGuardianSet
  let new := { new with
    index := newIndex
    creationTime := vaa.1.vaaTime
    keys }
  let L ← create P.toProgram claimed.1 accs.payer accs.guardianSetNew (guardianSetSeeds newIndex) new
  let bridge := { bridge with guardianSetIndex := newIndex }
  let L ← persist P.toProgram L accs.bridge bridge
  let L ← persist P.toProgram L accs.vaa.claim claimed.2
  let L ← persist P.toProgram L accs.guardianSetOld old
  persist P.toProgram L accs.guardianSetNew new

def setFees (L : Ledger Pubkey) (accs : SetFees Pubkey) : Result (Ledger Pubkey) := do
  peelMut accs.payer
  peelSigner accs.payer
  peelMut accs.bridge
  peelDerive P.toProgram bridgeSeed accs.bridge
  let bridge ← peelData BridgeData .initialized P.programId L false accs.bridge
  let vaa ← accs.vaa.peel P.toProgram P.programId L GovernancePayloadSetMessageFee.deserialize
  verifyGovernance P vaa.1
  accs.vaa.verify P.toProgram vaa.1
  let claimed ← accs.vaa.claimIt P.toProgram L accs.payer vaa.1 vaa.2.2
  let fee ← asU64 vaa.2.1.fee
  let bridge := { bridge with config := { bridge.config with fee } }
  let L ← persist P.toProgram claimed.1 accs.bridge bridge
  persist P.toProgram L accs.vaa.claim claimed.2

def transferFees (L : Ledger Pubkey) (accs : TransferFees Pubkey) : Result (Ledger Pubkey) := do
  peelMut accs.payer
  peelSigner accs.payer
  peelDerive P.toProgram bridgeSeed accs.bridge
  let _bridge ← peelData BridgeData .initialized P.programId L true accs.bridge
  let vaa ← accs.vaa.peel P.toProgram P.programId L GovernancePayloadTransferFees.deserialize
  peelMut accs.feeCollector
  peelDerive P.toProgram feeCollectorSeed accs.feeCollector
  peelMut accs.recipient
  peelSysvar P.rent accs.rent
  ensure (vaa.2.1.to' = P.toBytes accs.recipient.key) Error.invalidFeeRecipient.into
  verifyGovernance P vaa.1
  accs.vaa.verify P.toProgram vaa.1
  let amount ← asU64 vaa.2.1.amount
  ensure (minimumBalance (L accs.feeCollector.key).data.length ≤
    (L accs.feeCollector.key).lamports - amount.toNat) Error.invalidGovernanceWithdrawal.into
  let claimed ← accs.vaa.claimIt P.toProgram L accs.payer vaa.1 vaa.2.2
  let L ← transfer P.toProgram claimed.1 accs.feeCollector accs.recipient
    (some (P.derive [feeCollectorSeed])) amount.toNat
  persist P.toProgram L accs.vaa.claim claimed.2

/-! ## Steps -/

/-- An instruction of the program, or what others do to the ledger.  An upgrade of the guardian set does not
read the clock; its input has the time all the same. -/
inductive Input (Pubkey : Type) where
  | initializeBridge (accs : Initialize Pubkey) (clock : Int) (data : InitializeData)
  | postMessage (accs : PostMessage Pubkey) (clock : Int) (data : PostMessageData)
  | verifySignatures (accs : VerifySignatures Pubkey) (tx : List (Instruction Pubkey)) (current : UInt16)
      (data : VerifySignaturesData)
  | postVaa (accs : PostVAA Pubkey) (clock : Int) (vaa : PostVAAData)
  | upgradeGuardianSet (accs : UpgradeGuardianSet Pubkey) (clock : Int)
  | setFees (accs : SetFees Pubkey)
  | transferFees (accs : TransferFees Pubkey)
  | others (L : Ledger Pubkey)

def execute (L : Ledger Pubkey) : Input Pubkey → Result (Ledger Pubkey)
  | .initializeBridge accs clock data => initializeBridge P L accs clock data
  | .postMessage accs clock data => postMessage P L accs clock data
  | .verifySignatures accs tx current data => verifySignatures P L accs tx current data
  | .postVaa accs clock vaa => postVaa P L accs clock vaa
  | .upgradeGuardianSet accs _ => upgradeGuardianSet P L accs
  | .setFees accs => setFees P L accs
  | .transferFees accs => transferFees P L accs
  | .others L' => .ok L'

/-- A failed instruction changes nothing. -/
def step (L : Ledger Pubkey) (input : Input Pubkey) : Option (Ledger Pubkey) := (execute P L input).toOption

/-- The accounts that an instruction names. -/
def Input.metas : Input Pubkey → List (AccountMeta Pubkey)
  | .initializeBridge a _ _ => [a.bridge, a.guardianSet, a.feeCollector, a.payer, a.clock]
  | .postMessage a _ _ => [a.bridge, a.message, a.emitter, a.sequence, a.payer, a.feeCollector, a.clock]
  | .verifySignatures a _ _ _ => [a.payer, a.guardianSet, a.signatureSet, a.instructionAcc]
  | .postVaa a _ _ => [a.guardianSet, a.bridgeInfo, a.signatureSet, a.message, a.payer, a.clock]
  | .upgradeGuardianSet a _ =>
    [a.payer, a.bridge, a.vaa.message, a.vaa.claim, a.guardianSetOld, a.guardianSetNew]
  | .setFees a => [a.payer, a.bridge, a.vaa.message, a.vaa.claim]
  | .transferFees a =>
    [a.payer, a.bridge, a.vaa.message, a.vaa.claim, a.feeCollector, a.recipient, a.rent]
  | .others _ => []

/-! ## What the runtime promises -/

/-- Every listed entry of the instruction has been verified: the signature is of the message, by the key of
the address. -/
def SecpVerifies (Signed : List UInt8 → List UInt8 → Prop) (tx : List (Instruction Pubkey))
    (data : List UInt8) : Prop :=
  ∀ count, data[0]? = some count → ∀ i < count.toNat, ∃ e addressIx msgIx address message,
    secpEntry data (1 + 11 * i) = .ok e ∧
      tx[e.addressIx.toNat]? = some addressIx ∧ tx[e.msgIx.toNat]? = some msgIx ∧
      slice? addressIx.data e.addressOffset.toNat (e.addressOffset.toNat + 20) = some address ∧
      slice? msgIx.data e.msgOffset.toNat (e.msgOffset.toNat + e.msgSize.toNat) = some message ∧
      Signed address message

/-- The seeds of a derived account that an instruction names: the accounts of which there is one and those of the
guardian sets are not among them. -/
def Input.Derives (L : Ledger Pubkey) : Input Pubkey → List (List UInt8) → Prop
  | .postMessage accs _ _, seeds => seeds = sequenceSeeds (P.toBytes accs.emitter.key)
  | .postVaa accs _ _, seeds => ∃ s : SignatureSetData,
    Holds P.toProgram L accs.signatureSet.key (SignatureSetData.codec.write s) ∧ seeds = postedVaaSeeds s.hash
  | .upgradeGuardianSet accs _, seeds => accs.vaa.Derives L seeds
  | .setFees accs, seeds => accs.vaa.Derives L seeds
  | .transferFees accs, seeds => accs.vaa.Derives L seeds
  | .initializeBridge _ _ _, _ | .verifySignatures _ _ _ _, _ | .others _, _ => False

/-- What the runtime promises of an input: nobody signs for an address of the program, the instructions of
the secp256k1 program have been verified, and others do not change the accounts of the program.  What others
give to it is at an address that can sign, and zero.  The seeds that come up are among those in use. -/
structure Input.Admissible (used : Set (List (List UInt8))) (Signed : List UInt8 → List UInt8 → Prop)
    (L : Ledger Pubkey) (input : Input Pubkey) : Prop where
  signers : ∀ m ∈ input.metas, m.isSigner = true → ¬P.IsDerived used m.key
  secp : ∀ accs tx current data, input = .verifySignatures accs tx current data →
    ∀ ix ∈ tx, ix.programId = P.secp256k1Program → SecpVerifies Signed tx ix.data
  others : ∀ L', input = .others L' → ∀ k, Kept P.toProgram L L' k ∨
    (¬P.IsDerived used k ∧ (L k).owner ≠ P.programId ∧ ∃ n, (L' k).data = List.replicate n 0x00)
  seeds : ∀ seeds, input.Derives P L seeds → seeds ∈ used

end Core

end Wormhole.Solana
