/-
# Wormhole.Ethereum.Messages — how the EVM core contract parses and verifies a VAA.

`Messages.sol`.  Unlike the Alephium contract, `parseVM` delimits the signatures by the declared count;
`verifyVM` checks them against the guardian set that the VAA names.
-/
import Mathlib
import Wormhole.Ethereum.Evm

namespace Wormhole.Ethereum

/-! ## The contract -/

/-- `Structs.Signature`. -/
structure Signature where
  r : List UInt8
  s : List UInt8
  v : Nat
  guardianIndex : Nat
  deriving DecidableEq

/-- `Structs.VM`. -/
structure VM where
  version : Nat
  timestamp : Nat
  nonce : Nat
  emitterChainId : Nat
  emitterAddress : List UInt8
  sequence : Nat
  consistencyLevel : Nat
  payload : List UInt8
  guardianSetIndex : Nat
  signatures : List Signature
  hash : List UInt8
  deriving DecidableEq

/-- `uint8` addition. -/
def addUint8 (x y : Nat) : Revert Nat :=
  if x + y < 256 then .ok (x + y) else .error arithmeticPanic

/-- One round of the signature loop, at offset `index`. -/
def parseSignature (encodedVM : List UInt8) (index : Nat) : Revert Signature := do
  let guardianIndex ← toUint8 encodedVM index
  let r ← toBytes32 encodedVM (index + 1)
  let s ← toBytes32 encodedVM (index + 33)
  let v ← addUint8 (← toUint8 encodedVM (index + 65)) 27
  return { r, s, v, guardianIndex }

/-- The signature loop: `n` signatures from `index` on. -/
def parseSignatures (encodedVM : List UInt8) : Nat → Nat → Revert (List Signature)
  | 0, _ => .ok []
  | n + 1, index => do
    let sig ← parseSignature encodedVM index
    return sig :: (← parseSignatures encodedVM n (index + 66))

def parseVM (keccak256 : List UInt8 → List UInt8) (encodedVM : List UInt8) : Revert VM := do
  let version ← toUint8 encodedVM 0
  require (version = 1) "VM version incompatible"
  let guardianSetIndex ← toUint32 encodedVM 1
  -- Parse Signatures
  let signersLen ← toUint8 encodedVM 5
  let signatures ← parseSignatures encodedVM signersLen 6
  let index := 6 + 66 * signersLen
  -- Hash the body
  let body ← slice encodedVM index (← subUint encodedVM.length index)
  let hash := keccak256 (keccak256 body)
  -- Parse the body
  let timestamp ← toUint32 encodedVM index
  let nonce ← toUint32 encodedVM (index + 4)
  let emitterChainId ← toUint16 encodedVM (index + 8)
  let emitterAddress ← toBytes32 encodedVM (index + 10)
  let sequence ← toUint64 encodedVM (index + 42)
  let consistencyLevel ← toUint8 encodedVM (index + 50)
  let payload ← slice encodedVM (index + 51) (← subUint encodedVM.length (index + 51))
  return { version, timestamp, nonce, emitterChainId, emitterAddress, sequence, consistencyLevel,
           payload, guardianSetIndex, signatures, hash }

/-! ## Verification -/

/-- `Structs.GuardianSet`. -/
structure GuardianSet where
  keys : List Address
  expirationTime : Nat

/-- `Storage.WormholeState`, as far as `verifyVM` reads it. -/
structure WormholeState where
  /-- Mapping of guardian_set_index => guardian set -/
  guardianSets : Nat → GuardianSet
  /-- Current active guardian set index -/
  guardianSetIndex : Nat

/-- `ecrecover(hash, v, r, s)`. -/
abbrev Ecrecover := List UInt8 → Nat → List UInt8 → List UInt8 → Address

/-- The reason of a revert for an index outside of an array. -/
def arrayPanic : String := "Panic(0x32)"

/-- The loop of `verifySignatures`, from the `i`-th signature on. -/
def verifySignaturesFrom (ecrecover : Ecrecover) (hash : List UInt8) (guardianSet : GuardianSet) :
    Nat → Nat → List Signature → Revert (Bool × String)
  | _, _, [] => .ok (true, "")
  | i, lastIndex, sig :: signatures => do
    require (i = 0 ∨ lastIndex < sig.guardianIndex) "signature indices must be ascending"
    match guardianSet.keys[sig.guardianIndex]? with
    | none => .error arrayPanic
    | some key =>
      if ecrecover hash sig.v sig.r sig.s ≠ key then return (false, "VM signature invalid")
      else verifySignaturesFrom ecrecover hash guardianSet (i + 1) sig.guardianIndex signatures

def verifySignatures (ecrecover : Ecrecover) (hash : List UInt8) (signatures : List Signature)
    (guardianSet : GuardianSet) : Revert (Bool × String) :=
  verifySignaturesFrom ecrecover hash guardianSet 0 0 signatures

/-- The signatures that `verifyVM` asks for. -/
def quorum (guardians : Nat) : Nat :=
  -- We're using a fixed point number transformation with 1 decimal to deal with rounding.
  guardians * 10 / 3 * 2 / 10 + 1

/-- `verifyVM`, at the block time `timestamp`. -/
def verifyVM (ecrecover : Ecrecover) (s : WormholeState) (timestamp : Nat) (vm : VM) :
    Revert (Bool × String) := do
  let guardianSet := s.guardianSets vm.guardianSetIndex
  if guardianSet.keys.length = 0 then return (false, "invalid guardian set")
  else if vm.guardianSetIndex ≠ s.guardianSetIndex ∧ guardianSet.expirationTime < timestamp then
    return (false, "guardian set has expired")
  else if vm.signatures.length < quorum guardianSet.keys.length then return (false, "no quorum")
  else
    -- Verify signatures
    let (signaturesValid, invalidReason) ← verifySignatures ecrecover vm.hash vm.signatures guardianSet
    if signaturesValid = false then return (false, invalidReason) else return (true, "")

def parseAndVerifyVM (keccak256 : List UInt8 → List UInt8) (ecrecover : Ecrecover)
    (s : WormholeState) (timestamp : Nat) (encodedVM : List UInt8) :
    Revert (VM × Bool × String) := do
  let vm ← parseVM keccak256 encodedVM
  let (valid, reason) ← verifyVM ecrecover s timestamp vm
  return (vm, valid, reason)

end Wormhole.Ethereum
