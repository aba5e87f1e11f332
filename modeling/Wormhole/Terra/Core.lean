/-
# Wormhole.Terra.Core — the core contract on Terra.

`state.rs` and `contract.rs` of the wormhole contract: its storage, how a VAA is parsed and verified,
and what its messages do.  The bucket `guardian_set` holds the guardian sets and, under their hashes,
the VAAs that were executed.  Replacing the code (`migrate`) is left out, and so are the attributes of a
response but for those of a posted message.
-/
import Mathlib
import Wormhole.Lib.Bytes
import Wormhole.Terra.Cosmwasm

namespace Wormhole.Terra.Core

open Wormhole.Lib Wormhole.Lib.Bytes

/-! ## Storage -/

/-- Chain ID of Terra -/
def CHAIN_ID : Nat := 3

def FEE_DENOMINATION : String := "uluna"

/-- Guardian set information -/
structure GuardianSetInfo where
  /-- List of guardian addresses -/
  addresses : List (List UInt8)
  /-- Guardian set expiration time -/
  expirationTime : Nat
  deriving DecidableEq

/-- `GuardianSetInfo::quorum`. -/
def GuardianSetInfo.quorum (set : GuardianSetInfo) : Nat :=
  -- allow quorum of 0 for testing purposes...
  if set.addresses.length = 0 then 0 else set.addresses.length * 10 / 3 * 2 / 10 + 1

structure ConfigInfo where
  /-- Current active guardian set -/
  guardianSetIndex : Nat
  /-- Period for which a guardian set stays active after it has been replaced -/
  guardianSetExpirity : Nat
  govChain : Nat
  govAddress : List UInt8
  /-- Message sending fee -/
  fee : Coin

/-- What the bucket `guardian_set` holds under a key. -/
inductive Entry where
  | guardianSet (set : GuardianSetInfo)
  | executed
  deriving DecidableEq

structure State where
  config : ConfigInfo
  guardianSetBucket : List UInt8 → Option Entry
  sequences : List UInt8 → Nat

def guardianSetSet (s : State) (index : Nat) (set : GuardianSetInfo) : State :=
  { s with guardianSetBucket :=
      Function.update s.guardianSetBucket (beBytes 4 index) (some (.guardianSet set)) }

def guardianSetGet (s : State) (index : Nat) : StdResult GuardianSetInfo :=
  match s.guardianSetBucket (beBytes 4 index) with
  | some (.guardianSet set) => .ok set
  | _ => .error "GuardianSetInfo not found"

def vaaArchiveAdd (s : State) (hash : List UInt8) : State :=
  { s with guardianSetBucket := Function.update s.guardianSetBucket hash (some .executed) }

def vaaArchiveCheck (s : State) (hash : List UInt8) : Bool := s.guardianSetBucket hash = some .executed

/-! ## Parsing -/

/-- Hashing and signatures.  `ρ` are decoded signatures with their recovery id, `κ` public keys. -/
structure Crypto (ρ κ : Type) where
  keccak256 : List UInt8 → FixedBytes 32
  /-- `Signature::try_from`, `RecoverableId::new` and `RecoverableSignature::new`. -/
  recoverableSignature : List UInt8 → Nat → Option ρ
  /-- `recover_verify_key_from_digest_bytes`: arguments in the order `signature digest`. -/
  recoverVerifyKey : ρ → List UInt8 → Option κ
  /-- The point of a key, uncompressed. -/
  decompress : κ → Option (List UInt8)

structure ParsedVAA where
  version : Nat
  guardianSetIndex : Nat
  timestamp : Nat
  nonce : Nat
  lenSigners : Nat
  emitterChain : Nat
  emitterAddress : List UInt8
  sequence : Nat
  consistencyLevel : Nat
  payload : List UInt8
  hash : List UInt8
  deriving DecidableEq

namespace ParsedVAA

def HEADER_LEN : Nat := 6
def SIGNATURE_LEN : Nat := 66
def GUARDIAN_SET_INDEX_POS : Nat := 1
def LEN_SIGNER_POS : Nat := 5
def VAA_NONCE_POS : Nat := 4
def VAA_EMITTER_CHAIN_POS : Nat := 8
def VAA_EMITTER_ADDRESS_POS : Nat := 10
def VAA_SEQUENCE_POS : Nat := 42
def VAA_CONSISTENCY_LEVEL_POS : Nat := 50
def VAA_PAYLOAD_POS : Nat := 51
def SIG_DATA_POS : Nat := 1
def SIG_DATA_LEN : Nat := 64
def SIG_RECOVERY_POS : Nat := SIG_DATA_POS + SIG_DATA_LEN

/-- `ParsedVAA::deserialize`. -/
def deserialize (keccak256 : List UInt8 → FixedBytes 32) (data : List UInt8) : StdResult ParsedVAA := do
  let version ← getU8 data 0
  let guardianSetIndex ← getU32 data GUARDIAN_SET_INDEX_POS
  let lenSigners ← getU8 data LEN_SIGNER_POS
  let bodyOffset := HEADER_LEN + SIGNATURE_LEN * lenSigners
  -- Hash the body
  ensure (bodyOffset < data.length) "InvalidVAA"
  let body ← getRest data bodyOffset
  let hash := keccak256 (keccak256 body).val
  ensure (bodyOffset + VAA_PAYLOAD_POS ≤ data.length) "InvalidVAA"
  let timestamp ← getU32 data bodyOffset
  let nonce ← getU32 data (bodyOffset + VAA_NONCE_POS)
  let emitterChain ← getU16 data (bodyOffset + VAA_EMITTER_CHAIN_POS)
  let emitterAddress ← getBytes32 data (bodyOffset + VAA_EMITTER_ADDRESS_POS)
  let sequence ← getU64 data (bodyOffset + VAA_SEQUENCE_POS)
  let consistencyLevel ← getU8 data (bodyOffset + VAA_CONSISTENCY_LEVEL_POS)
  let payload ← getRest data (bodyOffset + VAA_PAYLOAD_POS)
  return {
    version, guardianSetIndex, timestamp, nonce, lenSigners, emitterChain, emitterAddress, sequence,
    consistencyLevel, payload, hash := hash.val }

end ParsedVAA

structure GovernancePacket where
  module' : List UInt8
  action : Nat
  chain : Nat
  payload : List UInt8

def GovernancePacket.deserialize (data : List UInt8) : StdResult GovernancePacket := do
  let module' ← getBytes32 data 0
  let action ← getU8 data 32
  let chain ← getU16 data 33
  let payload ← getRest data 35
  return { module', action, chain, payload }

/-- action 1: the new code. -/
def ContractUpgrade.deserialize (data : List UInt8) : StdResult Nat := getU64 data 24

/-- action 2 -/
structure GuardianSetUpgrade where
  newGuardianSetIndex : Nat
  newGuardianSet : GuardianSetInfo

/-- The loop of `GuardianSetUpgrade::deserialize`: `n` addresses from the `i`-th on. -/
def GuardianSetUpgrade.addresses (data : List UInt8) : Nat → Nat → StdResult (List (List UInt8))
  | _, 0 => .ok []
  | i, n + 1 => do
    let pos := 5 + i * 20
    ensure (pos + 20 ≤ data.length) "InvalidVAA"
    let address ← getBytes data pos 20
    return address :: (← addresses data (i + 1) n)

def GuardianSetUpgrade.deserialize (data : List UInt8) : StdResult GuardianSetUpgrade := do
  let newGuardianSetIndex ← getU32 data 0
  let nGuardians ← getU8 data 4
  let addresses ← GuardianSetUpgrade.addresses data 0 nGuardians
  return { newGuardianSetIndex, newGuardianSet := { addresses, expirationTime := 0 } }

/-- action 3 -/
def SetFee.deserialize (data : List UInt8) : StdResult Coin := do
  let (_, amount) ← getU256 data 0
  return { denom := FEE_DENOMINATION, amount }

/-- action 4: amount and recipient. -/
def TransferFee.deserialize (data : List UInt8) : StdResult (Coin × List UInt8) := do
  let recipient ← getAddress data 0
  let (_, amount) ← getU256 data 32
  return ({ denom := FEE_DENOMINATION, amount }, recipient)

/-! ## Verification -/

section

variable {ρ κ : Type} (crypto : Crypto ρ κ)

/-- `keys_equal`. -/
def keysEqual (a : κ) (b : List UInt8) : Bool :=
  match crypto.decompress a with
  | none => false
  | some point => (crypto.keccak256 (point.drop 1)).val.drop 12 = b

/-- One round of the signature loop, at offset `pos`, after the guardian `lastIndex`. -/
def verifySignature (data hash : List UInt8) (addresses : List (List UInt8)) (pos : Nat)
    (lastIndex : Int) : StdResult Nat := do
  ensure (pos + ParsedVAA.SIGNATURE_LEN ≤ data.length) "InvalidVAA"
  let index ← getU8 data pos
  ensure (lastIndex < index) "WrongGuardianIndexOrder"
  let signature ← getBytes data (pos + ParsedVAA.SIG_DATA_POS) ParsedVAA.SIG_DATA_LEN
  let id ← getU8 data (pos + ParsedVAA.SIG_RECOVERY_POS)
  let recoverable ← okOr "CannotDecodeSignature" (crypto.recoverableSignature signature id)
  let verifyKey ← okOr "CannotRecoverKey" (crypto.recoverVerifyKey recoverable hash)
  let address ← okOr "TooManySignatures" addresses[index]?
  ensure (keysEqual crypto verifyKey address = true) "GuardianSignatureError"
  return index

/-- The loop: `n` signatures from `pos` on. -/
def verifySignatures (data hash : List UInt8) (addresses : List (List UInt8)) :
    Nat → Nat → Int → StdResult Unit
  | 0, _, _ => .ok ()
  | n + 1, pos, lastIndex => do
    let index ← verifySignature crypto data hash addresses pos lastIndex
    verifySignatures data hash addresses n (pos + ParsedVAA.SIGNATURE_LEN) index

/-- Parses raw VAA data into a struct and verifies whether it contains sufficient signatures of an
active guardian set i.e. is valid according to Wormhole consensus rules -/
def parseAndVerifyVaa (s : State) (data : List UInt8) (blockTime : Nat) : StdResult ParsedVAA := do
  let vaa ← ParsedVAA.deserialize crypto.keccak256 data
  ensure (vaa.version = 1) "InvalidVersion"
  -- Check if VAA with this hash was already accepted
  ensure (vaaArchiveCheck s vaa.hash = false) "VaaAlreadyExecuted"
  -- Load and check guardian set
  let guardianSet ← okOr "InvalidGuardianSetIndex" (committed (guardianSetGet s vaa.guardianSetIndex))
  ensure (guardianSet.expirationTime = 0 ∨ blockTime ≤ guardianSet.expirationTime) "GuardianSetExpired"
  ensure (guardianSet.quorum ≤ vaa.lenSigners) "NoQuorum"
  -- Verify guardian signatures
  verifySignatures crypto data vaa.hash guardianSet.addresses vaa.lenSigners ParsedVAA.HEADER_LEN (-1)
  return vaa

end

/-! ## Messages to the contract -/

/-- The chain around the contract. -/
structure Api where
  addrCanonicalize : String → StdResult (List UInt8)
  addrHumanize : List UInt8 → StdResult String

/-- The attributes of a posted message, which the guardians read. -/
structure PostedMessage where
  message : List UInt8
  sender : List UInt8
  chainId : Nat
  nonce : Nat
  sequence : Nat
  blockTime : Nat
  deriving DecidableEq

structure Response where
  messages : List CosmosMsg
  posted : Option PostedMessage

def vaaUpdateContract (s : State) (data : List UInt8) : StdResult (State × Response) := do
  let newContract ← ContractUpgrade.deserialize data
  return (s, ⟨[.migrate newContract], none⟩)

def vaaUpdateGuardianSet (s : State) (blockTime : Nat) (data : List UInt8) :
    StdResult (State × Response) := do
  let upgrade ← GuardianSetUpgrade.deserialize data
  let expected ← addUint 32 s.config.guardianSetIndex 1
  ensure (upgrade.newGuardianSetIndex = expected) "GuardianSetIndexIncreaseError"
  let oldGuardianSetIndex := s.config.guardianSetIndex
  let s := guardianSetSet s upgrade.newGuardianSetIndex upgrade.newGuardianSet
  let s := { s with config := { s.config with guardianSetIndex := upgrade.newGuardianSetIndex } }
  let oldGuardianSet ← guardianSetGet s oldGuardianSetIndex
  let expirationTime ← addUint 64 blockTime s.config.guardianSetExpirity
  return (guardianSetSet s oldGuardianSetIndex { oldGuardianSet with expirationTime }, ⟨[], none⟩)

def handleSetFee (s : State) (data : List UInt8) : StdResult (State × Response) := do
  let fee ← SetFee.deserialize data
  return ({ s with config := { s.config with fee } }, ⟨[], none⟩)

def handleTransferFee (api : Api) (s : State) (data : List UInt8) : StdResult (State × Response) := do
  let (amount, recipient) ← TransferFee.deserialize data
  let toAddress ← api.addrHumanize recipient
  return (s, ⟨[.send toAddress [amount]], none⟩)

/-- The name of a governance module, without its padding. -/
def moduleName (module' : List UInt8) : StdResult String := do
  let name ← unwrap (fromUtf8 module')
  return String.ofList (name.toList.filter (· ≠ Char.ofNat 0))

def handleGovernancePayload (api : Api) (s : State) (blockTime : Nat) (data : List UInt8) :
    StdResult (State × Response) := do
  let govPacket ← GovernancePacket.deserialize data
  let module' ← moduleName govPacket.module'
  ensure (module' = "Core") "this is not a valid module"
  ensure (govPacket.chain = 0 ∨ govPacket.chain = CHAIN_ID) "the governance VAA is for another chain"
  match govPacket.action with
  | 1 => vaaUpdateContract s govPacket.payload
  | 2 => vaaUpdateGuardianSet s blockTime govPacket.payload
  | 3 => handleSetFee s govPacket.payload
  | 4 => handleTransferFee api s govPacket.payload
  | _ => .error "InvalidVAAAction"

section

variable {ρ κ : Type} (crypto : Crypto ρ κ) (api : Api)

/-- Process VAA message signed by quardians -/
def handleSubmitVaa (s : State) (blockTime : Nat) (data : List UInt8) : StdResult (State × Response) := do
  let vaa ← parseAndVerifyVaa crypto s data blockTime
  let archived := vaaArchiveAdd s vaa.hash
  ensure (s.config.govChain = vaa.emitterChain ∧ s.config.govAddress = vaa.emitterAddress)
    "InvalidVAAAction"
  ensure (s.config.guardianSetIndex = vaa.guardianSetIndex)
    "governance VAAs must be signed by the current guardian set"
  handleGovernancePayload api archived blockTime vaa.payload

def handlePostMessage (s : State) (blockTime : Nat) (sender : String) (funds : List Coin)
    (message : List UInt8) (nonce : Nat) : StdResult (State × Response) := do
  let fee := s.config.fee
  -- Check fee
  ensure (fee.amount = 0 ∨ hasCoins funds fee = true) "FeeTooLow"
  let emitter ← extendAddressTo32 (← api.addrCanonicalize sender)
  let sequence := s.sequences emitter
  let next ← addUint 64 sequence 1
  return ({ s with sequences := Function.update s.sequences emitter next },
    ⟨[], some { message, sender := emitter, chainId := CHAIN_ID, nonce, sequence, blockTime }⟩)

/-- `execute`, each message with the time of its block. -/
inductive ExecuteMsg where
  | submitVAA (blockTime : Nat) (vaa : List UInt8)
  | postMessage (blockTime : Nat) (sender : String) (funds : List Coin) (message : List UInt8) (nonce : Nat)

def execute (s : State) : ExecuteMsg → StdResult (State × Response)
  | .submitVAA blockTime vaa => handleSubmitVaa crypto api s blockTime vaa
  | .postMessage blockTime sender funds message nonce =>
    handlePostMessage api s blockTime sender funds message nonce

/-- A transaction; a failed one changes nothing. -/
def step (s : State) (msg : ExecuteMsg) : Option State :=
  (committed (execute crypto api s msg)).map Prod.fst

end

structure InstantiateMsg where
  govChain : Nat
  govAddress : List UInt8
  initialGuardianSet : GuardianSetInfo
  guardianSetExpirity : Nat

/-- `instantiate`, on the contract's empty storage. -/
def instantiate (msg : InstantiateMsg) : State :=
  guardianSetSet {
    config := {
      govChain := msg.govChain, govAddress := msg.govAddress, guardianSetIndex := 0,
      guardianSetExpirity := msg.guardianSetExpirity,
      fee := { denom := FEE_DENOMINATION, amount := 0 } }
    guardianSetBucket := fun _ => none
    sequences := fun _ => 0 } 0 msg.initialGuardianSet

end Wormhole.Terra.Core
