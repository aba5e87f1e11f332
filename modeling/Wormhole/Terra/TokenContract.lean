/-
# Wormhole.Terra.TokenContract — the messages that the token bridge on Terra executes.

`TokenBridge` and `TokenTransfers` have the transfers; here are the deposits of native coins, attestations in
both directions, the hook with which a wrapped asset registers, governance, and the dispatch over all of them
(`execute`).  A wrapped asset is a contract of the code `cw20-wrapped` (`wrapped_asset_code_id`): the bridge
asks for one, marks its asset as updating, and takes the sender of the hook for the contract.

The answer of the core contract to a VAA, other contracts' answers and the strings of Rust that are lossy or
not ASCII are a parameter (`ContractEnv`).  Attributes of the responses are left out.
-/
import Mathlib
import Wormhole.Lib.Bytes
import Wormhole.Lib.Go
import Wormhole.Terra.Cosmwasm
import Wormhole.Terra.Core
import Wormhole.Terra.NftBridge
import Wormhole.Terra.TokenBridge
import Wormhole.Terra.TokenTransfers

namespace Wormhole.Terra.TokenBridge

open Wormhole.Lib Wormhole.Lib.Bytes
open Wormhole.Terra.NftBridge (stringToArray)

/-! ## Storage and messages -/

/-- `WRAPPED_ASSET_UPDATING`, in place of the address of a contract that is being instantiated. -/
def wrappedAssetUpdating : String := "updating"

/-- All of the contract's storage. -/
structure ContractState extends TokenState where
  govChain : Nat
  govAddress : List UInt8
  /-- sequences of the attestations that were taken last, by asset id -/
  wrappedAssetSeq : List UInt8 → Option Nat
  vaaArchive : List UInt8 → Bool

/-- A VAA, as the core contract returns it when it is valid. -/
structure ParsedVAA where
  emitterChain : Nat
  emitterAddress : List UInt8
  sequence : Nat
  payload : List UInt8
  hash : List UInt8
  deriving DecidableEq

/-- The chain, with all that the contract asks of it. -/
structure ContractEnv extends TokenEnv where
  /-- `WormholeQueryMsg::VerifyVAA` -/
  verifyVaa : List UInt8 → StdResult ParsedVAA
  /-- name and symbol in the answer to `TokenQuery::TokenInfo` -/
  tokenInfo : String → StdResult (String × String)
  /-- the contract's own balance of a token -/
  balance : String → StdResult Nat
  /-- `String::from_utf8_lossy`, without its 0 characters -/
  getStringFrom32 : List UInt8 → String
  /-- `str::to_uppercase` -/
  toUppercase : String → String

/-- `ExecuteMsg`. -/
inductive ExecuteMsg where
  | registerAssetHook (assetId : List UInt8)
  | initiateTransfer (request : Request)
  | depositTokens
  | withdrawTokens (asset : AssetInfo)
  | submitVaa (data : List UInt8)
  | createAssetMeta (assetInfo : AssetInfo) (nonce : Nat)

/-- `InitHook`: a message to the bridge, or to some other contract. -/
inductive InitHook where
  | bridge (msg : ExecuteMsg)
  | other (contractAddr : String)

/-- The `InstantiateMsg` of a wrapped asset; nothing is minted with it. -/
structure WrappedInit where
  name : String
  symbol : String
  assetChain : Nat
  assetAddress : List UInt8
  decimals : Nat
  initHook : Option InitHook

/-- The messages of the contract. -/
inductive Message where
  | cosmos (msg : CosmosMsg)
  /-- of a wrapped asset -/
  | instantiate (init : WrappedInit)
  /-- `WrappedMsg::UpdateMetadata` -/
  | updateMetadata (contractAddr name symbol : String)

/-- The storage after a call, its messages, and its submessages with a reply. -/
structure Response where
  state : ContractState
  messages : List Message
  submessages : List CosmosMsg

/-- A response that sends nothing. -/
def Response.of (state : ContractState) : Response := ⟨state, [], []⟩

/-! ## Deposits -/

def bridgeDepositKey (sender denom : String) : String := sender ++ ":" ++ denom

def setBridgeDeposit (s : State) (sender denom : String) (amount : Nat) : State :=
  { s with bridgeDeposit := Function.update s.bridgeDeposit (bridgeDepositKey sender denom) (some amount) }

def depositCoin (sender : String) (s : State) (coin : Coin) : StdResult State := do
  let total ← addUint 128 ((s.bridgeDeposit (bridgeDepositKey sender coin.denom)).getD 0) coin.amount
  return setBridgeDeposit s sender coin.denom total

def depositTokens (s : State) (sender : String) (funds : List Coin) : StdResult State :=
  funds.foldlM (depositCoin sender) s

/-- Of a token there is nothing to withdraw. -/
def withdrawTokens (env : Env) (s : State) (sender : String) : AssetInfo → StdResult (State × List CosmosMsg)
  | .token _ => .ok (s, [])
  | .nativeToken denom => do
    let deposited ← okOr "no deposit found to withdraw" (s.bridgeDeposit (bridgeDepositKey sender denom))
    let coins ← coinsAfterTax env [⟨denom, deposited⟩]
    return (setBridgeDeposit s sender denom 0, [.send sender coins])

theorem depositTokens_frame {s s' : State} {sender : String} {funds : List Coin}
    (h : depositTokens s sender funds = .ok s') : ∃ bridgeDeposit, s' = { s with bridgeDeposit } := by
  induction funds generalizing s with
  | nil => exact ⟨s.bridgeDeposit, (Go.ok.inj h).symm⟩
  | cons coin funds ih =>
    rw [depositTokens, List.foldlM_cons] at h
    obtain ⟨s₁, hcoin, h⟩ := Go.bind_eq_ok.mp h
    obtain ⟨total, -, hcoin⟩ := Go.bind_eq_ok.mp hcoin
    obtain rfl := Go.ok.inj hcoin
    obtain ⟨bridgeDeposit, rfl⟩ := ih h
    exact ⟨bridgeDeposit, rfl⟩

theorem withdrawTokens_frame {env : Env} {s s' : State} {sender : String} {asset : AssetInfo}
    {messages : List CosmosMsg} (h : withdrawTokens env s sender asset = .ok (s', messages)) :
    ∃ bridgeDeposit, s' = { s with bridgeDeposit } := by
  cases asset with
  | token => exact ⟨s.bridgeDeposit, (Prod.mk.inj (Go.ok.inj h)).1.symm⟩
  | nativeToken denom =>
    obtain ⟨_, -, h⟩ := Go.bind_eq_ok.mp h
    obtain ⟨_, -, h⟩ := Go.bind_eq_ok.mp h
    exact ⟨_, (Prod.mk.inj (Go.ok.inj h)).1.symm⟩

/-! ## Attestations -/

structure AssetMeta where
  tokenAddress : List UInt8
  tokenChain : Nat
  decimals : Nat
  symbol : List UInt8
  name : List UInt8
  deriving DecidableEq

def AssetMeta.deserialize (data : List UInt8) : StdResult AssetMeta := do
  let tokenAddress ← getBytes32 data 0
  let tokenChain ← getU16 data 32
  let decimals ← getU8 data 34
  let symbol ← getBytes32 data 35
  let name ← getBytes32 data 67
  return { tokenAddress, tokenChain, decimals, symbol, name }

def AssetMeta.serialize (meta' : AssetMeta) : List UInt8 :=
  meta'.tokenAddress ++ beBytes 2 meta'.tokenChain ++ beBytes 1 meta'.decimals ++ meta'.symbol ++ meta'.name

/-- `Action::TRANSFER` and `Action::ATTEST_META`. -/
def Action.TRANSFER : Nat := 1
def Action.ATTEST_META : Nat := 2

/-- `TokenBridgeMessage::serialize` of an attestation. -/
def attestMessage (meta' : AssetMeta) : List UInt8 := beBytes 1 Action.ATTEST_META ++ meta'.serialize

section Handlers

variable (keccak256 : List UInt8 → FixedBytes 32) (env : ContractEnv) (s : ContractState)

def setWrappedAsset (assetId : List UInt8) (contractAddr : String) : ContractState :=
  { s with wrappedAsset := Function.update s.wrappedAsset assetId (some contractAddr) }

def setWrappedAssetSeq (assetId : List UInt8) (sequence : Nat) : ContractState :=
  { s with wrappedAssetSeq := Function.update s.wrappedAssetSeq assetId (some sequence) }

/-- Handle wrapped asset registration messages -/
def handleRegisterAsset (sender : String) (assetId : List UInt8) : StdResult ContractState := do
  let result ← okOr "RegistrationForbidden" (s.wrappedAsset assetId)
  ensure (result = wrappedAssetUpdating) "AssetAlreadyRegistered"
  let s := setWrappedAsset s assetId sender
  let contractAddress ← env.addrCanonicalize sender
  return { s with wrappedAssetAddress := Function.update s.wrappedAssetAddress contractAddress (some assetId) }

/-- A wrapped asset that is to register. -/
def wrappedInit (meta' : AssetMeta) (assetId : List UInt8) : WrappedInit where
  name := env.getStringFrom32 meta'.name
  symbol := env.getStringFrom32 meta'.symbol
  assetChain := meta'.tokenChain
  assetAddress := meta'.tokenAddress
  decimals := min meta'.decimals 8
  initHook := some (.bridge (.registerAssetHook assetId))

/-- The message of an attestation: an update of the wrapped asset if there is one, or a new one. -/
def attestedAsset (meta' : AssetMeta) (assetId : List UInt8) (sequence : Nat) :
    StdResult (ContractState × Message) :=
  match s.wrappedAsset assetId with
  | some contractAddr => do
    let last ← okOr "u64 not found" (s.wrappedAssetSeq assetId)
    -- Prevent anyone from re-attesting with old VAAs.
    ensure (last < sequence) "this asset has already been attested"
    return (s, .updateMetadata contractAddr (env.getStringFrom32 meta'.name) (env.getStringFrom32 meta'.symbol))
  | none => .ok (setWrappedAsset s assetId wrappedAssetUpdating, .instantiate (wrappedInit env meta' assetId))

def handleAttestMeta (emitterChain : Nat) (emitterAddress : List UInt8) (sequence : Nat) (data : List UInt8) :
    StdResult Response := do
  let meta' ← AssetMeta.deserialize data
  let expectedContract ← okOr "bridge contract not found" (s.bridgeContracts emitterChain)
  -- must be sent by a registered token bridge contract
  ensure (expectedContract = emitterAddress) "invalid emitter"
  ensure (CHAIN_ID ≠ meta'.tokenChain) "this asset is native to this chain and should not be attested"
  let assetId := buildAssetId keccak256 meta'.tokenChain meta'.tokenAddress
  let (s, message) ← attestedAsset env s meta' assetId sequence
  return ⟨setWrappedAssetSeq s assetId sequence, [message], []⟩

/-- All ISO-4217 currency codes are 3 letters, so we can safely slice anything that is not ULUNA. -/
def formatNativeDenomSymbol (denom : String) : StdResult String :=
  if denom = "uluna" then .ok "LUNA"
  else do
    -- UUSD -> US -> UST
    let bytes ← getBytes (asBytes (env.toUppercase denom)) 1 2
    let letters ← unwrap (fromUtf8 bytes)
    return letters ++ "T"

/-- What is attested of a token of Terra. -/
def assetMetaOf : AssetInfo → StdResult AssetMeta
  | .token contractAddr => do
    let canonical ← env.addrCanonicalize contractAddr
    let (name, symbol) ← env.tokenInfo contractAddr
    let decimals ← env.tokenDecimals contractAddr
    let tokenAddress ← extendAddressTo32 canonical
    return { tokenChain := CHAIN_ID, tokenAddress, decimals, symbol := (stringToArray symbol).val,
             name := (stringToArray name).val }
  | .nativeToken denom => do
    let tokenAddress ← nativeAddress denom
    let symbol ← formatNativeDenomSymbol env denom
    return { tokenChain := CHAIN_ID, tokenAddress, decimals := 6, symbol := (stringToArray symbol).val,
             name := (stringToArray symbol).val }

def handleCreateAssetMeta (funds : List Coin) (assetInfo : AssetInfo) (nonce : Nat) : StdResult Response := do
  let meta' ← assetMetaOf env assetInfo
  -- forward coins sent to this message
  let coins ← coinsAfterTax env.toEnv funds
  return ⟨s, [.cosmos (.postMessage s.wormholeContract (attestMessage meta') nonce coins)], []⟩

/-! ## Governance -/

def handleRegisterChain (data : List UInt8) : StdResult Response := do
  let chainId ← getU16 data 0
  let chainAddress ← getRest data 2
  ensure (s.bridgeContracts chainId).isNone "bridge contract already exists for this chain"
  return .of { s with bridgeContracts := Function.update s.bridgeContracts chainId (some chainAddress) }

def handleUpgradeContract (data : List UInt8) : StdResult Response := do
  let newContract ← getU64 data 24
  return ⟨s, [.cosmos (.migrate newContract)], []⟩

def handleGovernancePayload (data : List UInt8) : StdResult Response := do
  let govPacket ← Core.GovernancePacket.deserialize data
  ensure (env.getStringFrom32 govPacket.module' = "TokenBridge") "this is not a valid module"
  ensure (govPacket.chain = 0 ∨ govPacket.chain = CHAIN_ID) "the governance VAA is for another chain"
  match govPacket.action with
  | 1 => handleRegisterChain s govPacket.payload
  | 2 => handleUpgradeContract s govPacket.payload
  | _ => .error "InvalidVAAAction"

/-! ## Dispatch -/

/-- A transfer or an attestation. -/
def handleMessage (sender : String) (vaa : ParsedVAA) : StdResult Response := do
  let (action, payload) ← TokenBridgeMessage.deserialize vaa.payload
  if action = Action.TRANSFER then
    let (state, messages) ← handleCompleteTransfer keccak256 env.toEnv s.toState sender vaa.emitterChain
      vaa.emitterAddress payload
    return ⟨{ s with toState := state }, messages.map .cosmos, []⟩
  else if action = Action.ATTEST_META then
    handleAttestMeta keccak256 env s vaa.emitterChain vaa.emitterAddress vaa.sequence payload
  else .error "InvalidVAAAction"

def submitVaa (sender : String) (data : List UInt8) : StdResult Response := do
  let vaa ← env.verifyVaa data
  ensure (s.vaaArchive vaa.hash = false) "VaaAlreadyExecuted"
  let s := { s with vaaArchive := Function.update s.vaaArchive vaa.hash true }
  -- check if vaa is from governance
  if s.govChain = vaa.emitterChain ∧ s.govAddress = vaa.emitterAddress then
    handleGovernancePayload env s vaa.payload
  else handleMessage keccak256 env s sender vaa

def execute (sender : String) (funds : List Coin) : ExecuteMsg → StdResult Response
  | .registerAssetHook assetId => do
    return .of (← handleRegisterAsset env s sender assetId)
  | .initiateTransfer request => do
    let called ← handleInitiateTransfer env.toTokenEnv env.balance s.toTokenState sender funds request
    return ⟨{ s with toTokenState := called.state }, called.messages.map .cosmos, called.submessages⟩
  | .depositTokens => do
    let state ← depositTokens s.toState sender funds
    return .of { s with toState := state }
  | .withdrawTokens asset => do
    let (state, messages) ← withdrawTokens env.toEnv s.toState sender asset
    return ⟨{ s with toState := state }, messages.map .cosmos, []⟩
  | .submitVaa data => submitVaa keccak256 env s sender data
  | .createAssetMeta assetInfo nonce => handleCreateAssetMeta env s funds assetInfo nonce

end Handlers

end Wormhole.Terra.TokenBridge
