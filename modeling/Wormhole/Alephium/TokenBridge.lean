/-
# Wormhole.Alephium.TokenBridge — the contracts of the Alephium token bridge.

One `TokenBridge` registers the bridges of other chains, each as a `TokenBridgeForChain` with a
replay window of its own; these let the `TokenWrapperFactory` create a `TokenWrapper` for each token,
which sends and receives transfers.  The functions are those of the four contracts (`token_bridge.ral`,
`token_bridge_for_chain.ral`, `token_wrapper_factory.ral`, `token_wrapper.ral`), each on the state of
its own contract; what a call into another contract returns is an argument.

Asset movements are left out: they can only abort a call.
-/
import Mathlib
import Wormhole.Lib.Loop
import Wormhole.Alephium.Vm
import Wormhole.Alephium.Sequence
import Wormhole.Alephium.Governance

namespace Wormhole.Alephium

open Wormhole.Lib.Loop Wormhole.Alephium.Vm
open Wormhole.Alephium.Governance (Body WormholeMessage publishMessage)

/-! ## Amounts -/

namespace Math

def pow (x y : Nat) : Option Nat := loop y (fun _ result => U256.mul result x) 1

def normalizeAmount (amount decimals : Nat) : Option Nat :=
  if decimals > 8 then do return amount / (← pow 10 (decimals - 8)) else some amount

def deNormalizeAmount (amount decimals : Nat) : Option Nat :=
  if decimals > 8 then do U256.mul amount (← pow 10 (decimals - 8)) else some amount

end Math

/-- What a token contract answers to `getDecimals`, `getSymbol` and `getName`. -/
structure TokenInfo where
  decimals : Nat
  symbol : ByteVec
  name : ByteVec

/-- The contract id a `ByteVec` names; a call through anything else aborts. -/
def contractId? (id : ByteVec) : Option ContractId :=
  if h : id.length = 32 then some ⟨id, h⟩ else none

theorem contractId?_eq_some {id : ByteVec} {c : ContractId} :
    contractId? id = some c ↔ c.val = id := by
  unfold contractId?
  split
  · rename_i h
    rw [Option.some_inj]
    exact ⟨fun hc => by rw [← hc], fun hc => Subtype.ext hc.symm⟩
  · rename_i h
    simp only [reduceCtorEq, false_iff]
    rintro rfl
    exact h c.property

@[simp]
theorem contractId?_val (c : ContractId) : contractId? c.val = some c :=
  contractId?_eq_some.mpr rfl

/-! ## `TokenWrapper` -/

namespace TokenWrapper

structure State where
  tokenBridgeId : ByteVec
  tokenBridgeForChainId : ByteVec
  localChainId : Nat
  remoteChainId : Nat
  tokenContractId : ByteVec
  isLocalToken : Bool
  tokenDecimals : Nat
  symbol : ByteVec
  name : ByteVec
  deriving DecidableEq

def getTokenId (self : ContractId) (s : State) : ByteVec :=
  if s.isLocalToken then s.tokenContractId else self.val

def getTokenChainId (s : State) : Nat := if s.isLocalToken then s.localChainId else s.remoteChainId

/-- `byteVec!`, of a `Bool`. -/
def byteVecOfBool (b : Bool) : ByteVec := [if b then 0x01 else 0x00]

/-- The payload of a transfer message, as far as the wrapper writes it. -/
def transferPayload (normalizedAmount : Nat) (tokenContractId : ByteVec) (tokenChainId : Nat)
    (toAddress : ByteVec) (remoteChainId normalizedFee : Nat) (isLocalToken : Bool) :
    Option ByteVec := do
  return [0x01] ++ -- payloadId
    (← u256To32Byte normalizedAmount) ++
    tokenContractId ++
    (← u256To2Byte tokenChainId) ++
    toAddress ++
    (← u256To2Byte remoteChainId) ++
    (← u256To32Byte normalizedFee) ++
    byteVecOfBool isLocalToken

/-- `transfer`: the data it hands to `TokenBridge.publishTransfer`, after taking the token. -/
def transfer (s : State) (toAddress : ByteVec) (amount arbiterFee : Nat) (nonce : ByteVec) :
    Option ByteVec := do
  assert (toAddress.length = 32)
  assert (nonce.length = 4)
  let normalizedAmount ← Math.normalizeAmount amount s.tokenDecimals
  let normalizedFee ← Math.normalizeAmount arbiterFee s.tokenDecimals
  assert (normalizedFee < normalizedAmount)
  let _transferAmount ← Math.deNormalizeAmount normalizedAmount s.tokenDecimals
  transferPayload normalizedAmount s.tokenContractId (getTokenChainId s) toAddress s.remoteChainId
    normalizedFee s.isLocalToken

end TokenWrapper

/-! ## `TokenWrapperFactory` -/

namespace TokenWrapperFactory

/-- `createWrapper`: the initial state of the contract it creates; `caller` is
`callerContractId!()`. -/
def createWrapper (caller : ContractId) (tokenBridgeId : ByteVec) (localChainId remoteChainId : Nat)
    (tokenContractId : ByteVec) (isLocalToken : Bool) (tokenDecimals : Nat)
    (tokenSymbol tokenName : ByteVec) : Option TokenWrapper.State := do
  assert (remoteChainId ≠ localChainId)
  return {
    tokenBridgeId
    tokenBridgeForChainId := caller.val
    localChainId
    remoteChainId
    tokenContractId
    isLocalToken
    tokenDecimals
    symbol := tokenSymbol
    name := tokenName }

end TokenWrapperFactory

/-! ## `TokenBridgeForChain` -/

namespace TokenBridgeForChain

structure State where
  localChainId : Nat
  localTokenBridgeId : ByteVec
  remoteChainId : Nat
  remoteTokenBridgeId : ByteVec
  replay : Sequence.State
  deriving DecidableEq

/-- What `parseTransfer` returns. -/
structure Transfer where
  tokenId : ByteVec
  tokenChainId : Nat
  recipientAddress : ByteVec
  amount : Nat
  arbiterFee : Nat
  deriving DecidableEq

section

variable (distance : Nat)

/-- `verifyVAA`, given what `parseAndVerify` of the local token bridge returns. -/
def verifyVAA (s : State) (msg : Body) : Option (State × ByteVec) := do
  assert (msg.emitterChainId = s.remoteChainId)
  assert (msg.emitterAddress = s.remoteTokenBridgeId)
  let (replay, _) ← Sequence.checkSequence distance s.replay msg.sequence
  return ({ s with replay }, msg.payload)

/-- `parseAttestToken`: the token contract id and what the token answers on its own chain. -/
def parseAttestToken (s : State) (msg : Body) : Option (State × ByteVec × TokenInfo) := do
  let (s, payload) ← verifyVAA distance s msg
  assert ((← byteVecSlice payload 0 1) = [0x02]) -- payload id
  let tokenContractId ← byteVecSlice payload 1 33
  let tokenChainId ← u256From2Byte (← byteVecSlice payload 33 35)
  assert (tokenChainId = s.remoteChainId)
  let decimals ← u256From1Byte (← byteVecSlice payload 35 36)
  let symbol ← byteVecSlice payload 36 68
  let name ← byteVecSlice payload 68 100
  assert (payload.length = 100)
  return (s, tokenContractId, { decimals, symbol, name })

def createWrapperForLocalToken (self : ContractId) (s : State) (tokenId : ByteVec)
    (token : TokenInfo) : Option TokenWrapper.State := do
  let _ ← contractId? tokenId
  TokenWrapperFactory.createWrapper self s.localTokenBridgeId s.localChainId s.remoteChainId tokenId
    true token.decimals token.symbol token.name

def createWrapperForRemoteToken (self : ContractId) (s : State) (msg : Body) :
    Option (State × TokenWrapper.State) := do
  let (s, tokenContractId, token) ← parseAttestToken distance s msg
  let wrapper ← TokenWrapperFactory.createWrapper self s.localTokenBridgeId s.localChainId
    s.remoteChainId tokenContractId false token.decimals token.symbol token.name
  return (s, wrapper)

/-- `parseTransfer`, called by a contract with the code of a `TokenWrapper`. -/
def parseTransfer (s : State) (msg : Body) : Option (State × Transfer) := do
  let (s, payload) ← verifyVAA distance s msg
  assert ((← byteVecSlice payload 0 1) = [0x01]) -- payloadId
  let amount ← u256From32Byte (← byteVecSlice payload 1 33)
  let tokenId ← byteVecSlice payload 33 65
  let tokenChainId ← u256From2Byte (← byteVecSlice payload 65 67)
  let recipientAddress ← byteVecSlice payload 67 99
  let recipientChainId ← u256From2Byte (← byteVecSlice payload 99 101)
  assert (recipientChainId = s.localChainId)
  let arbiterFee ← u256From32Byte (← byteVecSlice payload 101 133)
  assert (payload.length = 133)
  return (s, { tokenId, tokenChainId, recipientAddress, amount, arbiterFee })

end

end TokenBridgeForChain

/-- `TokenWrapper.completeTransfer`, given what `parseTransfer` of its `TokenBridgeForChain` returns:
the amounts paid to the recipient and to the arbiter. -/
def TokenWrapper.completeTransfer (s : State) (msg : TokenBridgeForChain.Transfer) :
    Option (Nat × Nat) := do
  assert (msg.tokenId = s.tokenContractId)
  assert (msg.tokenChainId = getTokenChainId s)
  let denomalizedAmount ← Math.deNormalizeAmount msg.amount s.tokenDecimals
  let denomalizedFee ← Math.deNormalizeAmount msg.arbiterFee s.tokenDecimals
  assert (denomalizedAmount > denomalizedFee)
  let transferAmount ← U256.sub denomalizedAmount denomalizedFee
  return (transferAmount, denomalizedFee)

/-! ## `TokenBridge` -/

namespace TokenBridge

/-- The fields, but for the id of the governance contract, which is the one deployed with it. -/
structure State where
  governanceChainId : Nat
  governanceContractId : ByteVec
  replay : Sequence.State
  localChainId : Nat
  /-- the sequence of next message published by self -/
  sequence : Nat

/-- The module identifier "TokenBridge", left-padded to 32 bytes. -/
def tokenBridgeModule : ByteVec := List.replicate 21 0x00 ++
  [0x54, 0x6f, 0x6b, 0x65, 0x6e, 0x42, 0x72, 0x69, 0x64, 0x67, 0x65]

def checkModuleAndAction (payload : ByteVec) (start : Nat) (action : ByteVec) : Option Unit := do
  assert ((← byteVecSlice payload start (start + 32)) = tokenBridgeModule)
  assert ((← byteVecSlice payload (start + 32) (start + 33)) = action)

section

variable (distance : Nat)

/-- `verifyGovernanceVAA`, given what `parseAndVerifyVAA` of the governance contract returns. -/
def verifyGovernanceVAA (s : State) (msg : Body) : Option (State × ByteVec) := do
  assert (msg.emitterChainId = s.governanceChainId)
  assert (msg.emitterAddress = s.governanceContractId)
  let (replay, _) ← Sequence.checkSequence distance s.replay msg.sequence
  return ({ s with replay }, msg.payload)

/-- `parseRegisterChain`: the remote chain id and its token bridge. -/
def parseRegisterChain (s : State) (msg : Body) : Option (State × Nat × ByteVec) := do
  let (s, payload) ← verifyGovernanceVAA distance s msg
  checkModuleAndAction payload 0 [0x01]
  let chainId ← u256From2Byte (← byteVecSlice payload 33 35)
  assert (chainId = s.localChainId ∨ chainId = 0)
  let remoteChainId ← u256From2Byte (← byteVecSlice payload 35 37)
  assert (remoteChainId ≠ s.localChainId)
  let remoteTokenBridgeId ← byteVecSlice payload 37 69
  assert (payload.length = 69)
  return (s, remoteChainId, remoteTokenBridgeId)

/-- `registerChain`: a governance action; with the initial state of the contract it creates. -/
def registerChain (self : ContractId) (s : State) (msg : Body) :
    Option (State × TokenBridgeForChain.State) := do
  let (s, remoteChainId, remoteTokenBridgeId) ← parseRegisterChain distance s msg
  assert (remoteChainId ≠ s.localChainId)
  return (s, {
    localChainId := s.localChainId
    localTokenBridgeId := self.val
    remoteChainId
    remoteTokenBridgeId
    replay := Sequence.State.init })

end

def nextSequence (s : State) : Option (State × Nat) := do
  let sequence ← U256.add s.sequence 1
  return ({ s with sequence }, s.sequence)

def attestToken (self : ContractId) (s : State) (tokenId : ByteVec) (token : TokenInfo)
    (nonce : ByteVec) (consistencyLevel : Nat) : Option (State × WormholeMessage) := do
  assert (tokenId.length = 32)
  assert (nonce.length = 4)
  assert (token.symbol.length = 32)
  assert (token.name.length = 32)
  let payload := [0x02] ++ -- payloadId
    tokenId ++
    (← u256To2Byte s.localChainId) ++
    (← u256To1Byte token.decimals) ++
    token.symbol ++
    token.name
  let (s, sequence) ← nextSequence s
  return (s, publishMessage self sequence nonce payload consistencyLevel)

/-- `publishTransfer`, called by a contract `caller` with the code of a `TokenWrapper`. -/
def publishTransfer (self caller : ContractId) (s : State) (data nonce : ByteVec)
    (consistencyLevel : Nat) : Option (State × WormholeMessage) := do
  let payload := data ++ caller.val
  let (s, sequence) ← nextSequence s
  return (s, publishMessage self sequence nonce payload consistencyLevel)

end TokenBridge

end Wormhole.Alephium
