/-
# Wormhole.Terra.TokenBridge — completing transfers on Terra.

How the token bridge completes a transfer, and how it sends native coins out.  A token address has 32
bytes; the bridge marks a native denom by a first byte 1 (`nativeAddress`), and an incoming transfer goes
by that byte alone, before its token chain is looked at.  So native coins are released for a foreign
token whose address starts with the marker (`foreign_released`); `isolated_iff` says for which transfers
that cannot happen.

Verifying the VAA is the core contract's; other tokens, the tax and addresses in readable form are a
parameter (`Env`).  Attributes of the responses are left out.
-/
import Mathlib
import Wormhole.Lib.Bytes
import Wormhole.Lib.Go
import Wormhole.Terra.Cosmwasm

namespace Wormhole.Terra.TokenBridge

open Wormhole.Lib Wormhole.Lib.Bytes

/-! ## Storage -/

/-- Chain ID of Terra -/
def CHAIN_ID : Nat := 3

/-- What the transfers read and write. -/
structure State where
  /-- `config.wormhole_contract` -/
  wormholeContract : String
  bridgeContracts : Nat → Option (List UInt8)
  wrappedAsset : List UInt8 → Option String
  /-- Amounts outstanding on other chains, by the address of the token -/
  nativeCounter : List UInt8 → Option Nat
  bridgeDeposit : String → Option Nat

/-- The chain around the contract. -/
structure Env where
  addrHumanize : List UInt8 → StdResult String
  addrCanonicalize : String → StdResult (List UInt8)
  /-- the decimals in the answer to `TokenQuery::TokenInfo` -/
  tokenDecimals : String → StdResult Nat
  /-- `deduct_tax`: what is left of an amount of a denom. -/
  deductTax : String → Nat → StdResult Nat

def setNativeCounter (s : State) (assetAddress : List UInt8) (total : Nat) : State :=
  { s with nativeCounter := Function.update s.nativeCounter assetAddress (some total) }

def sendNative (s : State) (assetAddress : List UInt8) (amount : Nat) : StdResult State := do
  let newTotal ← addUint 128 amount ((s.nativeCounter assetAddress).getD 0)
  ensure (newTotal ≤ 2 ^ 64 - 1) "transfer exceeds max outstanding bridged token amount"
  return setNativeCounter s assetAddress newTotal

def receiveNative (s : State) (assetAddress : List UInt8) (amount : Nat) : StdResult State := do
  let total ← okOr "Uint128 not found" (s.nativeCounter assetAddress)
  let result ← okOr "Cannot Sub" (checkedSub total amount)
  return setNativeCounter s assetAddress result

/-! ## Payloads -/

structure TransferInfo where
  /-- high and low half -/
  amount : Nat × Nat
  tokenAddress : List UInt8
  tokenChain : Nat
  recipient : List UInt8
  recipientChain : Nat
  fee : Nat × Nat
  deriving DecidableEq

def TransferInfo.deserialize (data : List UInt8) : StdResult TransferInfo := do
  let amount ← getU256 data 0
  let tokenAddress ← getBytes32 data 32
  let tokenChain ← getU16 data 64
  let recipient ← getBytes32 data 66
  let recipientChain ← getU16 data 98
  let fee ← getU256 data 100
  return { amount, tokenAddress, tokenChain, recipient, recipientChain, fee }

def TransferInfo.serialize (info : TransferInfo) : List UInt8 :=
  beBytes 16 info.amount.1 ++ beBytes 16 info.amount.2 ++ info.tokenAddress ++ beBytes 2 info.tokenChain ++
    info.recipient ++ beBytes 2 info.recipientChain ++ beBytes 16 info.fee.1 ++ beBytes 16 info.fee.2

/-- `TokenBridgeMessage::deserialize`: the action and its payload. -/
def TokenBridgeMessage.deserialize (data : List UInt8) : StdResult (Nat × List UInt8) := do
  let action ← getU8 data 0
  let payload ← getRest data 1
  return (action, payload)

/-- `TokenBridgeMessage::serialize` of a transfer. -/
def transferMessage (info : TransferInfo) : List UInt8 := [0x01] ++ info.serialize

/-! ## Token addresses -/

def buildAssetId (keccak256 : List UInt8 → FixedBytes 32) (chain : Nat) (address : List UInt8) :
    List UInt8 :=
  (keccak256 (beBytes 2 chain ++ address)).val

/-- Produce a 20 byte asset "address" from a native terra denom. -/
def buildNativeId (denom : String) : StdResult (List UInt8) :=
  let bytes := asBytes denom
  unwrap (if bytes.length ≤ 20 then some (List.replicate (20 - bytes.length) 0x00 ++ bytes) else none)

/-- The token address of a native denom in a message. -/
def nativeAddress (denom : String) : StdResult (List UInt8) := do
  -- Mark the first byte of the address to distinguish it as native.
  let assetAddress ← extendAddressTo32 (← buildNativeId denom)
  return assetAddress.set 0 0x01

/-- Wipe the native byte marker and extract the serialized denom. -/
def serializedDenom (tokenAddress : List UInt8) : List UInt8 := (tokenAddress.set 0 0x00).filter (· ≠ 0x00)

/-! ## Completing a transfer -/

section

variable (keccak256 : List UInt8 → FixedBytes 32) (env : Env)

def coinsAfterTax (coins : List Coin) : StdResult (List Coin) :=
  coins.mapM fun coin => do
    let amount ← env.deductTax coin.denom coin.amount
    return { coin with amount }

/-- What both ways of completing a transfer check first: the transfer, the address it goes to and the
amount without the fee. -/
def checkTransfer (s : State) (emitterChain : Nat) (emitterAddress data : List UInt8) :
    StdResult (TransferInfo × List UInt8 × Nat) := do
  let transferInfo ← TransferInfo.deserialize data
  let expectedContract ← okOr "bridge contract not found" (s.bridgeContracts emitterChain)
  -- must be sent by a registered token bridge contract
  ensure (expectedContract = emitterAddress) "invalid emitter"
  ensure (transferInfo.recipientChain = CHAIN_ID) "this transfer is not directed at this chain"
  let targetAddress ← getAddress transferInfo.recipient 0
  let amount ← unwrap (checkedSub transferInfo.amount.2 transferInfo.fee.2)
  -- Check high 128 bit of amount value to be empty
  ensure (transferInfo.amount.1 = 0 ∧ transferInfo.fee.1 = 0) "AmountTooHigh"
  return (transferInfo, targetAddress, amount)

/-- The messages that mint the amount and the fee of a wrapped token. -/
def mintMessages (contractAddr recipient : String) (amount : Nat) (sender : String) (fee : Nat) :
    List CosmosMsg :=
  .mint contractAddr recipient amount :: if fee ≠ 0 then [.mint contractAddr sender fee] else []

/-- The messages that transfer the amount and the fee of a token of this chain. -/
def transferMessages (contractAddr recipient : String) (amount : Nat) (sender : String) (fee : Nat) :
    List CosmosMsg :=
  .transfer contractAddr recipient amount :: if fee ≠ 0 then [.transfer contractAddr sender fee] else []

/-- A token of another chain: mint its wrapped CW20. -/
def completeWrapped (s : State) (sender : String) (transferInfo : TransferInfo)
    (targetAddress : List UInt8) (amount : Nat) : StdResult (State × List CosmosMsg) := do
  let assetId := buildAssetId keccak256 transferInfo.tokenChain transferInfo.tokenAddress
  let contractAddr ← okOr "Wrapped asset not deployed" (s.wrappedAsset assetId)
  let recipient ← okOr "WrongTargetAddressFormat" (committed (env.addrHumanize targetAddress))
  return (s, mintMessages contractAddr recipient amount sender transferInfo.fee.2)

/-- `10u128.pow(n)`. -/
def pow10 (n : Nat) : StdResult Nat := unwrap (if 10 ^ n < 2 ^ 128 then some (10 ^ n) else none)

/-- A CW20 token of this chain. -/
def completeToken (s : State) (sender : String) (transferInfo : TransferInfo)
    (targetAddress : List UInt8) (amount : Nat) : StdResult (State × List CosmosMsg) := do
  let fee := transferInfo.fee.2
  let tokenAddress ← getAddress transferInfo.tokenAddress 0
  let recipient ← env.addrHumanize targetAddress
  let contractAddr ← env.addrHumanize tokenAddress
  -- the amount is what the recipient will receive; amount + fee is the total sent
  let s ← receiveNative s tokenAddress (← addUint 128 amount fee)
  -- undo normalization to 8 decimals
  let decimals ← env.tokenDecimals contractAddr
  let multiplier ← pow10 (max decimals 8 - 8)
  let amount ← unwrap (checkedMul amount multiplier)
  let fee ← unwrap (checkedMul fee multiplier)
  return (s, transferMessages contractAddr recipient amount sender fee)

def handleCompleteTransferToken (s : State) (sender : String) (emitterChain : Nat)
    (emitterAddress data : List UInt8) : StdResult (State × List CosmosMsg) := do
  let (transferInfo, targetAddress, amount) ← checkTransfer s emitterChain emitterAddress data
  if transferInfo.tokenChain ≠ CHAIN_ID then
    completeWrapped keccak256 env s sender transferInfo targetAddress amount
  else completeToken env s sender transferInfo targetAddress amount

/-- The fee in a native coin, to the recipient as well. -/
def sendFee (recipient denom : String) (fee : Nat) : StdResult (List CosmosMsg) :=
  if fee ≠ 0 then do return [.send recipient (← coinsAfterTax env [⟨denom, fee⟩])] else .ok []

def handleCompleteTransferTokenNative (s : State) (emitterChain : Nat)
    (emitterAddress data : List UInt8) : StdResult (State × List CosmosMsg) := do
  let (transferInfo, targetAddress, amount) ← checkTransfer s emitterChain emitterAddress data
  let fee := transferInfo.fee.2
  let denom ← unwrap (fromUtf8 (serializedDenom transferInfo.tokenAddress))
  let recipient ← env.addrHumanize targetAddress
  let tokenAddress ← getAddress (transferInfo.tokenAddress.set 0 0x00) 0
  let s ← receiveNative s tokenAddress (← addUint 128 amount fee)
  let coins ← coinsAfterTax env [⟨denom, amount⟩]
  let feeMessages ← sendFee env recipient denom fee
  return (s, .send recipient coins :: feeMessages)

def handleCompleteTransfer (s : State) (sender : String) (emitterChain : Nat)
    (emitterAddress data : List UInt8) : StdResult (State × List CosmosMsg) := do
  let transferInfo ← TransferInfo.deserialize data
  if transferInfo.tokenAddress.head? = some 0x01 then
    handleCompleteTransferTokenNative env s emitterChain emitterAddress data
  else handleCompleteTransferToken keccak256 env s sender emitterChain emitterAddress data

/-! ## Sending native coins out -/

/-- Take the amount out of what the sender has deposited. -/
def takeDeposit (s : State) (sender denom : String) (amount : Nat) : StdResult State := do
  let depositKey := sender ++ ":" ++ denom
  let deposited ← okOr "no deposit found to transfer" (s.bridgeDeposit depositKey)
  let rest ← okOr "Cannot Sub" (checkedSub deposited amount)
  return { s with bridgeDeposit := Function.update s.bridgeDeposit depositKey (some rest) }

def handleInitiateTransferNativeToken (s : State) (sender : String) (funds : List Coin) (denom : String)
    (amount recipientChain : Nat) (recipient : List UInt8) (fee nonce : Nat) :
    StdResult (State × List CosmosMsg) := do
  ensure (recipientChain ≠ CHAIN_ID) "SameSourceAndTarget"
  ensure (amount ≠ 0) "AmountTooLow"
  ensure (fee ≤ amount) "fee greater than sent amount"
  let s ← takeDeposit s sender denom amount
  let s ← sendNative s (← buildNativeId denom) amount
  let tokenAddress ← nativeAddress denom
  let transferInfo : TransferInfo := {
    tokenChain := CHAIN_ID, tokenAddress, amount := (0, amount), recipientChain, recipient,
    fee := (0, fee) }
  let _ ← env.addrCanonicalize sender
  return (s, [.postMessage s.wormholeContract (transferMessage transferInfo) nonce
    (← coinsAfterTax env funds)])

end

end Wormhole.Terra.TokenBridge
