/-
# Wormhole.Guardian.Governance — the governance VAAs that the node makes.

The bodies of `payloads.go` with their binary form, `CreateGovernanceVAA`, and the functions of the admin
service that turn a request into a VAA.  The sequence number and the nonce are part of the request; the
templates of the admin tool fill in random ones.  A Go string is given by its bytes.

Hex decoding is Go's; recognising and reading an Ethereum address is go-ethereum's and a parameter.
-/
import Mathlib
import Wormhole.Lib.Bytes
import Wormhole.Lib.Go
import Wormhole.Guardian.Vaa

namespace Wormhole.Guardian

open Wormhole.Lib Wormhole.Lib.Bytes

/-! ## The bodies -/

/-- The identifier of the Core module -/
def CoreModule : List UInt8 := List.replicate 28 0x00 ++ [0x43, 0x6f, 0x72, 0x65]

/-- A governance message to perform a contract upgrade of the core module -/
structure BodyContractUpgrade where
  chainID : ChainID
  newContract : Address

/-- A governance message to set a new guardian set -/
structure BodyGuardianSetUpdate where
  keys : List EthAddress
  newIndex : UInt32

/-- A governance message to register a chain on the token bridge -/
structure BodyTokenBridgeRegisterChain where
  module' : List UInt8
  chainID : ChainID
  emitterAddress : Address

/-- A governance message to upgrade the token bridge. -/
structure BodyTokenBridgeUpgradeContract where
  module' : List UInt8
  targetChainID : ChainID
  newContract : Address

def BodyContractUpgrade.serialize (b : BodyContractUpgrade) : List UInt8 :=
  CoreModule ++ (beBytes 1 1 ++ (beBytes 2 b.chainID.toNat ++ b.newContract.val))

/-- The number of keys is written as `uint8(len(b.Keys))`. -/
def BodyGuardianSetUpdate.serialize (b : BodyGuardianSetUpdate) : List UInt8 :=
  -- ChainID - 0 for universal
  CoreModule ++ (beBytes 1 2 ++ (beBytes 2 0 ++ (beBytes 4 b.newIndex.toNat ++
    (beBytes 1 b.keys.length ++ b.keys.flatMap Subtype.val))))

/-- The header of a token-bridge message: the module, padded to 32 bytes. -/
def bridgeModule (module' : List UInt8) : Go (List UInt8) :=
  if 32 < module'.length then .panic "module longer than 32 byte"
  else .ok (List.replicate (32 - module'.length) 0x00 ++ module')

def BodyTokenBridgeRegisterChain.serialize (r : BodyTokenBridgeRegisterChain) : Go (List UInt8) := do
  let header ← bridgeModule r.module'
  -- target chain (0 = universal), then the chain to be registered
  return header ++ (beBytes 1 1 ++ (beBytes 2 0 ++ (beBytes 2 r.chainID.toNat ++ r.emitterAddress.val)))

def BodyTokenBridgeUpgradeContract.serialize (r : BodyTokenBridgeUpgradeContract) : Go (List UInt8) := do
  let header ← bridgeModule r.module'
  return header ++ (beBytes 1 2 ++ (beBytes 2 r.targetChainID.toNat ++ r.newContract.val))

/-! ## Governance VAAs -/

theorem GovernanceEmitter_length : (List.replicate 31 (0x00 : UInt8) ++ [0x04]).length = 32 := rfl

def GovernanceEmitter : Address := ⟨List.replicate 31 0x00 ++ [0x04], GovernanceEmitter_length⟩

/-- The chain ID of Solana. -/
def GovernanceChain : ChainID := 1

def CreateGovernanceVAA (nonce : UInt32) (sequence : UInt64) (guardianSetIndex : UInt32)
    (payload : List UInt8) : VAA where
  version := SupportedVAAVersion
  guardianSetIndex
  signatures := []
  timestamp := { unix := 0, nanosecond := 0 }
  nonce
  sequence
  consistencyLevel := 32
  emitterChain := GovernanceChain
  emitterAddress := GovernanceEmitter
  payload

/-! ## The admin service -/

/-- The number of guardians the contracts have room for. -/
def MaxGuardianCount : Nat := 19

def fromHexChar (c : UInt8) : Option UInt8 :=
  if 0x30 ≤ c ∧ c ≤ 0x39 then some (c - 0x30)
  else if 0x61 ≤ c ∧ c ≤ 0x66 then some (c - 0x61 + 10)
  else if 0x41 ≤ c ∧ c ≤ 0x46 then some (c - 0x41 + 10)
  else none

/-- `hex.DecodeString`. -/
def hexDecodeString : List UInt8 → Option (List UInt8)
  | [] => some []
  | [_] => none
  | a :: b :: rest => do
    let high ← fromHexChar a
    let low ← fromHexChar b
    return (high * 16 + low) :: (← hexDecodeString rest)

/-- A guardian of a set update: the address of its key in hex, and a name. -/
structure SetUpdateGuardian where
  pubkey : List UInt8
  name : String

/-- The payload of a governance message of the admin service. -/
inductive GovernancePayload where
  | guardianSet (guardians : List SetUpdateGuardian)
  | contractUpgrade (chainId : UInt32) (newContract : List UInt8)
  | bridgeRegisterChain (module' : List UInt8) (chainId : UInt32) (emitterAddress : List UInt8)
  | bridgeContractUpgrade (module' : List UInt8) (targetChainId : UInt32) (newContract : List UInt8)

structure GovernanceMessage where
  sequence : UInt64
  nonce : UInt32
  payload : GovernancePayload

section

-- `IsHexAddress` and `HexToAddress` of go-ethereum
variable (hexToAddress : List UInt8 → Option EthAddress)

/-- The duplicate check of one guardian against all slots, those still to be filled included. -/
def checkDuplicate (addrs : List EthAddress) (i : Nat) (ethAddr : EthAddress) (name : String) : Go Unit :=
  match addrs.findIdx? (· = ethAddr) with
  | some j => .error ("duplicate pubkey at index " ++ toString i ++ " (duplicate of " ++ toString j ++ "): " ++
      name)
  | none => .ok ()

/-- The loop over the guardians from the `i`-th on, with the slots of `addrs`. -/
def readGuardians : Nat → List EthAddress → List SetUpdateGuardian → Go (List EthAddress)
  | _, addrs, [] => .ok addrs
  | i, addrs, g :: guardians =>
    match hexToAddress g.pubkey with
    | none => .error ("invalid pubkey format at index " ++ toString i ++ " (" ++ g.name ++ ")")
    | some ethAddr => do
      checkDuplicate addrs i ethAddr g.name
      readGuardians (i + 1) (addrs.set i ethAddr) guardians

theorem zeroEthAddress_length : (List.replicate 20 (0x00 : UInt8)).length = 20 := rfl

/-- The zero address, which fills the slots at first. -/
def zeroEthAddress : EthAddress := ⟨List.replicate 20 0x00, zeroEthAddress_length⟩

def adminGuardianSetUpdateToVAA (guardians : List SetUpdateGuardian) (guardianSetIndex nonce : UInt32)
    (sequence : UInt64) : Go VAA :=
  if guardians.length = 0 then .error "empty guardian set specified"
  else if guardians.length > MaxGuardianCount then
    .error ("too many guardians - " ++ toString guardians.length ++ ", maximum is " ++
      toString MaxGuardianCount)
  else do
    let addrs ← readGuardians hexToAddress 0 (List.replicate guardians.length zeroEthAddress) guardians
    let body : BodyGuardianSetUpdate := { keys := addrs, newIndex := guardianSetIndex + 1 }
    return CreateGovernanceVAA nonce sequence guardianSetIndex body.serialize

/-- What the other three read: 32 bytes in hex. -/
def readAddress (encoding length : String) (s : List UInt8) : Go Address :=
  match hexDecodeString s with
  | none => .error encoding
  | some b => if h : b.length = 32 then .ok ⟨b, h⟩ else .error length

/-- A chain ID that fits 16 bits. -/
def readChainID (reason : String) (chainId : UInt32) : Go ChainID :=
  if chainId.toNat > 65535 then .error reason else .ok (UInt16.ofNat chainId.toNat)

def adminContractUpgradeToVAA (chainId : UInt32) (newContract : List UInt8)
    (guardianSetIndex nonce : UInt32) (sequence : UInt64) : Go VAA := do
  let newContract ← readAddress "invalid new contract address encoding (expected hex)"
    "invalid new_contract address" newContract
  let chainID ← readChainID "invalid chain_id" chainId
  let body : BodyContractUpgrade := { chainID, newContract }
  return CreateGovernanceVAA nonce sequence guardianSetIndex body.serialize

def tokenBridgeRegisterChain (module' : List UInt8) (chainId : UInt32) (emitterAddress : List UInt8)
    (guardianSetIndex nonce : UInt32) (sequence : UInt64) : Go VAA := do
  let chainID ← readChainID "invalid chain_id" chainId
  let emitterAddress ← readAddress "invalid emitter address encoding (expected hex)"
    "invalid emitter address (expected 32 bytes)" emitterAddress
  let body : BodyTokenBridgeRegisterChain := { module', chainID, emitterAddress }
  return CreateGovernanceVAA nonce sequence guardianSetIndex (← body.serialize)

def tokenBridgeUpgradeContract (module' : List UInt8) (targetChainId : UInt32) (newContract : List UInt8)
    (guardianSetIndex nonce : UInt32) (sequence : UInt64) : Go VAA := do
  let targetChainID ← readChainID "invalid target_chain_id" targetChainId
  let newContract ← readAddress "invalid new contract address (expected hex)"
    "invalid new contract address (expected 32 bytes)" newContract
  let body : BodyTokenBridgeUpgradeContract := { module', targetChainID, newContract }
  return CreateGovernanceVAA nonce sequence guardianSetIndex (← body.serialize)

/-- One message of `InjectGovernanceVAA`. -/
def GovernanceMessage.toVAA (message : GovernanceMessage) (currentSetIndex : UInt32) : Go VAA :=
  match message.payload with
  | .guardianSet guardians =>
    adminGuardianSetUpdateToVAA hexToAddress guardians currentSetIndex message.nonce message.sequence
  | .contractUpgrade chainId newContract =>
    adminContractUpgradeToVAA chainId newContract currentSetIndex message.nonce message.sequence
  | .bridgeRegisterChain module' chainId emitterAddress =>
    tokenBridgeRegisterChain module' chainId emitterAddress currentSetIndex message.nonce message.sequence
  | .bridgeContractUpgrade module' targetChainId newContract =>
    tokenBridgeUpgradeContract module' targetChainId newContract currentSetIndex message.nonce message.sequence

end

/-! ## What is written -/

theorem CoreModule_length : CoreModule.length = 32 := rfl

theorem BodyContractUpgrade.serialize_length (b : BodyContractUpgrade) : b.serialize.length = 67 := by
  simp [BodyContractUpgrade.serialize, CoreModule_length, b.newContract.property]

theorem flatMap_val_length {n : Nat} (keys : List (FixedBytes n)) :
    (keys.flatMap Subtype.val).length = n * keys.length := by
  induction keys with
  | nil => rfl
  | cons key keys ih =>
    rw [List.flatMap_cons, List.length_append, key.property, ih, List.length_cons, Nat.mul_succ, Nat.add_comm]

theorem BodyGuardianSetUpdate.serialize_length (b : BodyGuardianSetUpdate) :
    b.serialize.length = 40 + 20 * b.keys.length := by
  rw [BodyGuardianSetUpdate.serialize]
  simp only [List.length_append, CoreModule_length, beBytes_length, flatMap_val_length]
  omega

/-- A bridge message has a header when its module has room in it. -/
theorem bridgeModule_bind {module' bytes : List UInt8} {f : List UInt8 → List UInt8} :
    (do let header ← bridgeModule module'; return f header : Go (List UInt8)) = .ok bytes ↔
      module'.length ≤ 32 ∧ bytes = f (List.replicate (32 - module'.length) 0x00 ++ module') := by
  unfold bridgeModule
  by_cases hlong : 32 < module'.length
  · rw [if_pos hlong, Go.panic_bind]
    simp only [reduceCtorEq, false_iff, not_and]
    intro hle
    omega
  · rw [if_neg hlong, Go.ok_bind, Go.pure_eq, Go.ok.injEq]
    constructor
    · rintro rfl
      exact ⟨Nat.le_of_not_lt hlong, rfl⟩
    · rintro ⟨-, rfl⟩
      rfl

/-- A module of at most 32 bytes is padded. -/
theorem BodyTokenBridgeRegisterChain.serialize_eq_ok {r : BodyTokenBridgeRegisterChain} {bytes : List UInt8} :
    r.serialize = .ok bytes ↔ r.module'.length ≤ 32 ∧
      bytes = (List.replicate (32 - r.module'.length) 0x00 ++ r.module') ++ (beBytes 1 1 ++ (beBytes 2 0 ++
        (beBytes 2 r.chainID.toNat ++ r.emitterAddress.val))) :=
  bridgeModule_bind

theorem BodyTokenBridgeUpgradeContract.serialize_eq_ok {b : BodyTokenBridgeUpgradeContract}
    {bytes : List UInt8} :
    b.serialize = .ok bytes ↔ b.module'.length ≤ 32 ∧
      bytes = (List.replicate (32 - b.module'.length) 0x00 ++ b.module') ++ (beBytes 1 2 ++
        (beBytes 2 b.targetChainID.toNat ++ b.newContract.val)) :=
  bridgeModule_bind

end Wormhole.Guardian
