/-
# Wormhole.Terra.NftBridge — the NFT bridge on Terra.

How the NFT bridge completes a transfer and initiates one.  An NFT of another chain is a token of a
`cw721-wrapped` contract, which the bridge instantiates for the first NFT of a collection; any other NFT is
held by the bridge itself while it is out.  Token ids are strings on Terra and 32 bytes in a message.

A call runs its handler and then the messages the handler returns; a failure undoes all of it.  Verifying
a VAA is the core contract's, and so is taking the message that is published; decimal numbers of 256 bits
are those of the `bigint` crate (`Env`).  Replacing the code (`handle_upgrade_contract`) replaces what is
modelled here and is left out, and so are the attributes of the responses.
-/
import Mathlib
import Wormhole.Lib.Bytes
import Wormhole.Lib.Go
import Wormhole.Terra.Cosmwasm
import Wormhole.Terra.Core
import Wormhole.Terra.Cw721

namespace Wormhole.Terra.NftBridge

open Wormhole.Lib Wormhole.Lib.Bytes

/-! ## Storage -/

/-- Chain ID of Terra -/
def CHAIN_ID : UInt16 := 3

/-- `WRAPPED_ASSET_UPDATING`, in place of the address of a contract that is being instantiated. -/
def wrappedAssetUpdating : String := "updating"

structure SplCacheItem where
  name : FixedBytes 32
  symbol : FixedBytes 32
  deriving DecidableEq

structure State where
  govChain : UInt16
  govAddress : List UInt8
  wormholeContract : String
  bridgeContracts : UInt16 → Option (List UInt8)
  wrappedAsset : List UInt8 → Option String
  wrappedAssetAddress : List UInt8 → Option (List UInt8)
  splCache : FixedBytes 32 → Option SplCacheItem
  /-- by chain, address and hash -/
  tokenIdHashes : UInt16 → FixedBytes 32 → FixedBytes 32 → Option String
  vaaArchive : List UInt8 → Bool

/-- What surrounds the contract. -/
structure Env where
  api : Api
  keccak256 : List UInt8 → FixedBytes 32
  /-- `String::from_utf8_lossy`, without its 0 characters -/
  getStringFrom32 : List UInt8 → String
  /-- a `U256`, as a decimal number -/
  formatU256 : FixedBytes 32 → String
  /-- `U256::from_dec_str` -/
  fromDecStr : String → Option (FixedBytes 32)
  /-- `env.contract.address` -/
  self : String

/-! ## Payloads -/

/-- `BoundedVec<u8, N>`. -/
abbrev BoundedVec (n : Nat) := {bs : List UInt8 // bs.length ≤ n}

def BoundedVec.new (n : Nat) (bs : List UInt8) : StdResult (BoundedVec n) :=
  if h : bs.length ≤ n then .ok ⟨bs, h⟩ else .error "vector length exceeds the bound"

/-- `get_const_bytes`. -/
def getConstBytes (n : Nat) (data : List UInt8) (index : Nat) : StdResult (FixedBytes n) :=
  match h : getBytes data index n with
  | .ok bs => .ok ⟨bs, getBytes_length h⟩
  | .error reason => .error reason
  | .panic reason => .panic reason

structure TransferInfo where
  nftAddress : FixedBytes 32
  nftChain : UInt16
  symbol : FixedBytes 32
  name : FixedBytes 32
  tokenId : FixedBytes 32
  /-- max 200 bytes due to Solana -/
  uri : BoundedVec 200
  recipient : FixedBytes 32
  recipientChain : UInt16
  deriving DecidableEq

def TransferInfo.deserialize (data : List UInt8) : StdResult TransferInfo := do
  let nftAddress ← getConstBytes 32 data 0
  let nftChain ← getU16 data 32
  let symbol ← getConstBytes 32 data 34
  let name ← getConstBytes 32 data 66
  let tokenId ← getConstBytes 32 data 98
  let uriLength ← getU8 data 130
  let uri ← getBytes data 131 uriLength
  let recipient ← getConstBytes 32 data (131 + uriLength)
  let recipientChain ← getU16 data (163 + uriLength)
  ensure (data.length = 165 + uriLength) "Invalid transfer length"
  let uri ← BoundedVec.new 200 uri
  return { nftAddress, nftChain := UInt16.ofNat nftChain, symbol, name, tokenId, uri, recipient,
           recipientChain := UInt16.ofNat recipientChain }

def TransferInfo.serialize (info : TransferInfo) : List UInt8 :=
  info.nftAddress.val ++ beBytes 2 info.nftChain.toNat ++ info.symbol.val ++ info.name.val ++
    info.tokenId.val ++ [UInt8.ofNat info.uri.val.length] ++ info.uri.val ++ info.recipient.val ++
    beBytes 2 info.recipientChain.toNat

/-- `TokenBridgeMessage::deserialize`: the action and its payload. -/
def TokenBridgeMessage.deserialize (data : List UInt8) : StdResult (Nat × List UInt8) := do
  let action ← getU8 data 0
  let payload ← getRest data 1
  return (action, payload)

/-- `Action::TRANSFER`. -/
def Action.TRANSFER : Nat := 1

/-- `TokenBridgeMessage::serialize` of a transfer. -/
def transferMessage (info : TransferInfo) : List UInt8 := beBytes 1 Action.TRANSFER ++ info.serialize

/-- The transfer in a message, as `submit_vaa` reads it. -/
def parseTransferMessage (data : List UInt8) : StdResult TransferInfo := do
  let (action, payload) ← TokenBridgeMessage.deserialize data
  ensure (action = Action.TRANSFER) "InvalidVAAAction"
  TransferInfo.deserialize payload

/-! ## Token ids and addresses -/

section Handlers

variable (env : Env)

def buildAssetId (chain : UInt16) (address : FixedBytes 32) : List UInt8 :=
  (env.keccak256 (beBytes 2 chain.toNat ++ address.val)).val

def fromExternalTokenId (s : State) (nftChain : UInt16) (nftAddress tokenId : FixedBytes 32) :
    StdResult String :=
  if nftChain = CHAIN_ID then okOr "token id not found" (s.tokenIdHashes nftChain nftAddress tokenId)
  else .ok (env.formatU256 tokenId)

def saveTokenIdHash (s : State) (nftChain : UInt16) (nftAddress hash : FixedBytes 32) (tokenId : String) :
    State :=
  { s with
    tokenIdHashes := Function.update s.tokenIdHashes nftChain
      (Function.update (s.tokenIdHashes nftChain) nftAddress
        (Function.update (s.tokenIdHashes nftChain nftAddress) hash (some tokenId))) }

def toExternalTokenId (s : State) (nftChain : UInt16) (nftAddress : FixedBytes 32) (tokenId : String) :
    StdResult (State × FixedBytes 32) :=
  if nftChain = CHAIN_ID then
    let hash := env.keccak256 (asBytes tokenId)
    .ok (saveTokenIdHash s nftChain nftAddress hash tokenId, hash)
  else do
    let bytes ← okOr "could not be parsed as a decimal number" (env.fromDecStr tokenId)
    return (s, bytes)

/-- `get_address(0)` of 32 bytes. -/
def addressOf (bytes : FixedBytes 32) : List UInt8 := bytes.val.drop 12

/-- `extend_address_to_32_array`. -/
def extendAddressTo32Array (addr : List UInt8) : StdResult (FixedBytes 32) :=
  if h : addr.length = 20 then .ok ⟨List.replicate 12 0x00 ++ addr, by simp [h]⟩
  else .panic "source slice length does not match destination slice length"

/-- `string_to_array::<32>`. -/
def stringToArray (str : String) : FixedBytes 32 :=
  ⟨(asBytes str ++ List.replicate 32 0x00).take 32, by simp⟩

/-- `Binary::to_array`. -/
def toArray (bytes : List UInt8) : StdResult (FixedBytes 32) :=
  if h : bytes.length = 32 then .ok ⟨bytes, h⟩ else .error "invalid data size"

/-! ## Messages to other contracts -/

inductive Message where
  /-- of a `cw721` contract -/
  | execute (contractAddr : String) (msg : Cw721.ExecuteMsg)
  /-- of a `cw721-wrapped` contract, with the NFT it mints at once and the hook that registers it -/
  | instantiate (name symbol : String) (asset : Cw721.WrappedAssetInfo) (tokenId owner tokenUri : String)
      (assetId : List UInt8)
  | postMessage (contractAddr : String) (message : List UInt8) (nonce : Nat)

/-! ## Completing a transfer -/

/-- The bridge instantiates a contract. -/
def setUpdating (s : State) (assetId : List UInt8) : State :=
  { s with wrappedAsset := Function.update s.wrappedAsset assetId (some wrappedAssetUpdating) }

def setSplCache (s : State) (tokenId : FixedBytes 32) (item : SplCacheItem) : State :=
  { s with splCache := Function.update s.splCache tokenId (some item) }

/-- The first NFT of a collection. -/
def deployWrapped (s : State) (info : TransferInfo) (tokenId recipient tokenUri : String) :
    State × List Message :=
  let assetId := buildAssetId env info.nftChain info.nftAddress
  let s := setUpdating s assetId
  let asset : Cw721.WrappedAssetInfo := { assetChain := info.nftChain, assetAddress := info.nftAddress.val }
  if info.nftChain = 1 then
    -- Solana NFTs all use the same NFT contract, so unify the name
    (setSplCache s info.tokenId { name := info.name, symbol := info.symbol },
      [.instantiate "Wormhole Bridged Solana-NFT" "WORMSPLNFT" asset tokenId recipient tokenUri assetId])
  else
    (s, [.instantiate (env.getStringFrom32 info.name.val) (env.getStringFrom32 info.symbol.val) asset
      tokenId recipient tokenUri assetId])

/-- NFT is not native to this chain, so we need a wrapper -/
def completeWrapped (s : State) (info : TransferInfo) (tokenId recipient : String) :
    StdResult (State × List Message) := do
  let tokenUri ← okOr "could not parse uri string" (fromUtf8 info.uri.val)
  -- Check if this asset is already deployed
  match s.wrappedAsset (buildAssetId env info.nftChain info.nftAddress) with
  | some contractAddr => return (s, [.execute contractAddr (.mint tokenId recipient (some tokenUri))])
  | none => return deployWrapped env s info tokenId recipient tokenUri

/-- Native NFT, transfer from custody -/
def completeNative (s : State) (info : TransferInfo) (tokenId recipient : String) :
    StdResult (State × List Message) := do
  let contractAddr ← env.api.addrHumanize (addressOf info.nftAddress)
  return (s, [.execute contractAddr (.transferNft recipient tokenId)])

def handleCompleteTransfer (s : State) (emitterChain : UInt16) (emitterAddress : List UInt8)
    (info : TransferInfo) : StdResult (State × List Message) := do
  let expectedContract ← okOr "bridge contract not found" (s.bridgeContracts emitterChain)
  -- must be sent by a registered token bridge contract
  ensure (expectedContract = emitterAddress) "invalid emitter"
  ensure (info.recipientChain = CHAIN_ID) "this transfer is not directed at this chain"
  let recipient ← okOr "WrongTargetAddressFormat" (committed (env.api.addrHumanize (addressOf info.recipient)))
  let tokenId ← fromExternalTokenId env s info.nftChain info.nftAddress info.tokenId
  if info.nftChain ≠ CHAIN_ID then completeWrapped env s info tokenId recipient
  else completeNative env s info tokenId recipient

/-- A VAA, as the core contract returns it when it is valid. -/
structure ParsedVAA where
  emitterChain : UInt16
  emitterAddress : List UInt8
  payload : List UInt8
  hash : List UInt8

def handleRegisterChain (s : State) (payload : List UInt8) : StdResult State := do
  let chainId ← getU16 payload 0
  let chainAddress ← getRest payload 2
  ensure (s.bridgeContracts (UInt16.ofNat chainId)).isNone "bridge contract already exists for this chain"
  return { s with
    bridgeContracts := Function.update s.bridgeContracts (UInt16.ofNat chainId) (some chainAddress) }

def handleGovernancePayload (s : State) (data : List UInt8) : StdResult (State × List Message) := do
  let govPacket ← Core.GovernancePacket.deserialize data
  ensure (env.getStringFrom32 govPacket.module' = "NFTBridge") "this is not a valid module"
  ensure (govPacket.chain = 0 ∨ govPacket.chain = CHAIN_ID.toNat) "the governance VAA is for another chain"
  ensure (govPacket.action = 1) "InvalidVAAAction"
  let s ← handleRegisterChain s govPacket.payload
  return (s, [])

def submitVaa (s : State) (vaa : ParsedVAA) : StdResult (State × List Message) := do
  ensure (s.vaaArchive vaa.hash = false) "VaaAlreadyExecuted"
  let s := { s with vaaArchive := Function.update s.vaaArchive vaa.hash true }
  -- check if vaa is from governance
  if s.govChain = vaa.emitterChain ∧ s.govAddress = vaa.emitterAddress then
    handleGovernancePayload env s vaa.payload
  else
    let info ← parseTransferMessage vaa.payload
    handleCompleteTransfer env s vaa.emitterChain vaa.emitterAddress info

/-- Handle wrapped asset registration messages -/
def handleRegisterAsset (s : State) (sender : String) (assetId : List UInt8) : StdResult State := do
  let result ← okOr "RegistrationForbidden" (s.wrappedAsset assetId)
  ensure (result = wrappedAssetUpdating) "AssetAlreadyRegistered"
  let contractAddress ← env.api.addrCanonicalize sender
  return { s with
    wrappedAsset := Function.update s.wrappedAsset assetId (some sender)
    wrappedAssetAddress := Function.update s.wrappedAssetAddress contractAddress (some assetId) }

/-! ## Initiating a transfer -/

section Initiate

variable (nfts : String → Option Cw721.State)

/-- A query of a contract. -/
def query (asset : String) : StdResult Cw721.State := okOr "contract not found" (nfts asset)

/-- The message that takes the NFT, with the chain and the address it comes from. -/
def takeNft (s : State) (asset : String) (assetCanonical : List UInt8) (tokenId : String) :
    StdResult (Message × UInt16 × FixedBytes 32) :=
  match s.wrappedAssetAddress assetCanonical with
  | some _ => do
    -- This is a deployed wrapped asset, burn it
    let info ← okOr "wrapped asset info not found" (← query nfts asset).wrappedAssetInfo
    let assetAddress ← toArray info.assetAddress
    return (.execute asset (.burn tokenId), info.assetChain, assetAddress)
  | none => do
    -- Native NFT, lock it up
    let assetAddress ← extendAddressTo32Array assetCanonical
    return (.execute asset (.transferNft env.self tokenId), CHAIN_ID, assetAddress)

/-- The name and the symbol that are published. -/
def metadata (s : State) (asset : String) (assetChain : UInt16) (tokenId : FixedBytes 32) :
    StdResult SplCacheItem :=
  if assetChain = 1 then okOr "SplCacheItem not found" (s.splCache tokenId)
  else do
    let response ← query nfts asset
    return { name := stringToArray response.name, symbol := stringToArray response.symbol }

/-- The URI of a token, which has to have one. -/
def tokenUri (asset tokenId : String) : StdResult (BoundedVec 200) := do
  let token ← Cw721.load (← query nfts asset) tokenId
  let uri ← unwrap token.tokenUri
  BoundedVec.new 200 (asBytes uri)

def handleInitiateTransfer (s : State) (sender asset tokenId : String) (recipientChain : UInt16)
    (recipient : FixedBytes 32) (nonce : Nat) : StdResult (State × List Message) := do
  ensure (recipientChain ≠ CHAIN_ID) "SameSourceAndTarget"
  let assetCanonical ← env.api.addrCanonicalize asset
  let (take, nftChain, nftAddress) ← takeNft env nfts s asset assetCanonical tokenId
  let (s, externalTokenId) ← toExternalTokenId env s nftChain nftAddress tokenId
  let item ← metadata nfts s asset nftChain externalTokenId
  let uri ← tokenUri nfts asset tokenId
  let info : TransferInfo := {
    nftAddress, nftChain, symbol := item.symbol, name := item.name, tokenId := externalTokenId, uri,
    recipient, recipientChain }
  let _ ← extendAddressTo32 (← env.api.addrCanonicalize sender)
  return (s, [take, .postMessage s.wormholeContract (transferMessage info) nonce])

end Initiate

/-! ## Transactions -/

/-- The bridge and the NFT contracts, its own and those of others. -/
structure World where
  bridge : State
  nfts : String → Option Cw721.State

def World.setNft (w : World) (contractAddr : String) (nft : Cw721.State) : World :=
  { w with nfts := Function.update w.nfts contractAddr (some nft) }

/-- What the chain decides in a transaction: the address of a new contract, and whether the core contract
takes the message. -/
structure Chain where
  block : BlockInfo
  newAddress : String
  posted : Bool

/-- A new contract gets an address of its own. -/
def World.Unused (w : World) (self address : String) : Prop :=
  w.nfts address = none ∧ address ≠ self ∧ address ≠ wrappedAssetUpdating

instance (w : World) (self address : String) : Decidable (w.Unused self address) :=
  match h : w.nfts address with
  | some _ => isFalse fun hunused => by have hnone := hunused.1; rw [h] at hnone; cases hnone
  | none => decidable_of_iff (address ≠ self ∧ address ≠ wrappedAssetUpdating)
      ⟨fun hne => ⟨h, hne⟩, fun hunused => hunused.2⟩

/-- The chain carries out a message of the bridge. -/
def deliver (chain : Chain) (w : World) : Message → StdResult World
  | .execute contractAddr msg => do
    let nft ← query w.nfts contractAddr
    return w.setNft contractAddr (← Cw721.execute env.api chain.block nft env.self msg)
  | .instantiate name symbol asset tokenId owner tokenUri assetId => do
    ensure (w.Unused env.self chain.newAddress) "address in use"
    let nft ← Cw721.instantiate env.api name symbol env.self (some asset)
    let nft ← Cw721.mint env.api nft env.self tokenId owner (some tokenUri)
    let bridge ← handleRegisterAsset env w.bridge chain.newAddress assetId
    return { w with bridge }.setNft chain.newAddress nft
  | .postMessage _ _ _ => do
    ensure (chain.posted = true) "the message is refused"
    return w

/-- A handler's result: its state and then its messages, in order. -/
def dispatch (chain : Chain) (w : World) (result : State × List Message) : StdResult World :=
  result.2.foldlM (deliver env chain) { w with bridge := result.1 }

/-- A transaction: a call of the bridge, a call of an NFT contract by somebody else, or a new NFT contract
of anybody's. -/
inductive Input where
  | initiateTransfer (chain : Chain) (sender asset tokenId : String) (recipientChain : UInt16)
      (recipient : List UInt8) (nonce : Nat)
  | submitVaa (chain : Chain) (vaa : ParsedVAA)
  | registerAssetHook (sender : String) (assetId : List UInt8)
  | nft (block : BlockInfo) (sender contractAddr : String) (msg : Cw721.ExecuteMsg)
  | instantiate (contractAddr name symbol minter : String) (asset : Option Cw721.WrappedAssetInfo)

/-- `InitiateTransfer`. -/
def initiateTransfer (chain : Chain) (w : World) (sender asset tokenId : String) (recipientChain : UInt16)
    (recipient : List UInt8) (nonce : Nat) : StdResult World := do
  let recipient ← toArray recipient
  let result ← handleInitiateTransfer env w.nfts w.bridge sender asset tokenId recipientChain recipient nonce
  dispatch env chain w result

/-- `SubmitVaa`, of a valid VAA. -/
def completeTransfer (chain : Chain) (w : World) (vaa : ParsedVAA) : StdResult World := do
  dispatch env chain w (← submitVaa env w.bridge vaa)

def run (w : World) : Input → StdResult World
  | .initiateTransfer chain sender asset tokenId recipientChain recipient nonce =>
    initiateTransfer env chain w sender asset tokenId recipientChain recipient nonce
  | .submitVaa chain vaa => completeTransfer env chain w vaa
  | .registerAssetHook sender assetId => do
    return { w with bridge := ← handleRegisterAsset env w.bridge sender assetId }
  | .nft block sender contractAddr msg => do
    -- the bridge makes no calls but those above
    ensure (sender ≠ env.self) ""
    let nft ← query w.nfts contractAddr
    return w.setNft contractAddr (← Cw721.execute env.api block nft sender msg)
  | .instantiate contractAddr name symbol minter asset => do
    ensure (w.Unused env.self contractAddr) "address in use"
    return w.setNft contractAddr (← Cw721.instantiate env.api name symbol minter asset)

/-- One transaction; a failure undoes it. -/
def step (w : World) (input : Input) : Option World := committed (run env w input)

end Handlers

/-- The bridge as it was instantiated; other contracts may be there already. -/
structure Fresh (w : World) : Prop where
  bridgeContracts : ∀ chain, w.bridge.bridgeContracts chain = none
  wrappedAsset : ∀ assetId, w.bridge.wrappedAsset assetId = none
  wrappedAssetAddress : ∀ address, w.bridge.wrappedAssetAddress address = none
  splCache : ∀ tokenId, w.bridge.splCache tokenId = none

/-! ## What a transfer does -/

section Specs

variable {env : Env} {chain : Chain} {w w' : World} {s s' : State}

/-- The NFT is burned, or it is locked. -/
inductive Takes (env : Env) (tokenId : String) : Cw721.ExecuteMsg → Prop where
  | burn : Takes env tokenId (.burn tokenId)
  | lock : Takes env tokenId (.transferNft env.self tokenId)

theorem takeNft_takes {nfts : String → Option Cw721.State} {asset tokenId : String}
    {assetCanonical : List UInt8} {take : Message} {nftChain : UInt16} {nftAddress : FixedBytes 32}
    (h : takeNft env nfts s asset assetCanonical tokenId = .ok (take, nftChain, nftAddress)) :
    ∃ msg, Takes env tokenId msg ∧ take = .execute asset msg := by
  unfold takeNft at h
  split at h
  · simp only [Go.bind_eq_ok] at h
    obtain ⟨_, -, _, -, _, -, h⟩ := h
    cases h
    exact ⟨_, .burn, rfl⟩
  · simp only [Go.bind_eq_ok] at h
    obtain ⟨_, -, h⟩ := h
    cases h
    exact ⟨_, .lock, rfl⟩

/-- Only the hashes of token ids are written. -/
theorem toExternalTokenId_eq_ok {nftChain : UInt16} {nftAddress externalTokenId : FixedBytes 32}
    {tokenId : String} (h : toExternalTokenId env s nftChain nftAddress tokenId = .ok (s', externalTokenId)) :
    s' = { s with tokenIdHashes := s'.tokenIdHashes } := by
  unfold toExternalTokenId at h
  split at h
  · cases h
    rfl
  · simp only [Go.bind_eq_ok] at h
    obtain ⟨_, -, h⟩ := h
    cases h
    rfl

/-- A transfer that is initiated: the NFT is taken, and the message is published. -/
theorem handleInitiateTransfer_eq_ok {nfts : String → Option Cw721.State} {sender asset tokenId : String}
    {recipientChain : UInt16} {recipient : FixedBytes 32} {nonce : Nat} {messages : List Message}
    (h : handleInitiateTransfer env nfts s sender asset tokenId recipientChain recipient nonce =
      .ok (s', messages)) :
    s' = { s with tokenIdHashes := s'.tokenIdHashes } ∧
      ∃ msg info, Takes env tokenId msg ∧
        messages = [.execute asset msg, .postMessage s'.wormholeContract (transferMessage info) nonce] := by
  simp only [handleInitiateTransfer, Go.bind_eq_ok] at h
  obtain ⟨_, -, assetCanonical, -, ⟨take, nftChain, nftAddress⟩, htake, ⟨s₁, externalTokenId⟩, hid, item, -,
    uri, -, _, -, _, -, h⟩ := h
  cases h
  obtain ⟨msg, htakes, rfl⟩ := takeNft_takes htake
  exact ⟨toExternalTokenId_eq_ok hid, msg, _, htakes, rfl⟩

theorem deliver_execute_eq_ok {contractAddr : String} {msg : Cw721.ExecuteMsg} :
    deliver env chain w (.execute contractAddr msg) = .ok w' ↔
      ∃ nft nft', w.nfts contractAddr = some nft ∧
        Cw721.execute env.api chain.block nft env.self msg = .ok nft' ∧ w' = w.setNft contractAddr nft' := by
  simp only [deliver, query, Go.bind_eq_ok, okOr_eq_ok]
  constructor
  · rintro ⟨nft, hnft, nft', hexecute, h⟩
    exact ⟨nft, nft', hnft, hexecute, (Go.ok.inj h).symm⟩
  · rintro ⟨nft, nft', hnft, hexecute, rfl⟩
    exact ⟨nft, hnft, nft', hexecute, rfl⟩

/-- **An initiated transfer.** The bridge takes the NFT as itself, and nothing else moves. -/
theorem initiateTransfer_eq_ok {sender asset tokenId : String} {recipientChain : UInt16}
    {recipient : List UInt8} {nonce : Nat}
    (h : initiateTransfer env chain w sender asset tokenId recipientChain recipient nonce = .ok w') :
    w'.bridge = { w.bridge with tokenIdHashes := w'.bridge.tokenIdHashes } ∧
      ∃ msg nft nft', Takes env tokenId msg ∧ w.nfts asset = some nft ∧
        Cw721.execute env.api chain.block nft env.self msg = .ok nft' ∧
        w'.nfts = Function.update w.nfts asset (some nft') := by
  simp only [initiateTransfer, Go.bind_eq_ok] at h
  obtain ⟨recipient, -, ⟨s', messages⟩, hinitiate, h⟩ := h
  obtain ⟨hs', msg, info, htakes, rfl⟩ := handleInitiateTransfer_eq_ok hinitiate
  simp only [dispatch, List.foldlM_cons, List.foldlM_nil, Go.bind_eq_ok] at h
  obtain ⟨w₁, hexecute, w₂, hpost, h⟩ := h
  obtain ⟨nft, nft', hnft, htaken, rfl⟩ := deliver_execute_eq_ok.mp hexecute
  simp only [deliver, Go.bind_eq_ok] at hpost
  obtain ⟨_, -, hpost⟩ := hpost
  cases hpost
  cases h
  exact ⟨hs', msg, nft, nft', htakes, hnft, htaken, rfl⟩

/-! ### Completed transfers -/

/-- The bridge's assets, and what it knows of Solana's. -/
structure SameAssets (s s' : State) : Prop where
  wrappedAsset : s'.wrappedAsset = s.wrappedAsset
  wrappedAssetAddress : s'.wrappedAssetAddress = s.wrappedAssetAddress
  splCache : s'.splCache = s.splCache

/-- Whether a message is the governance's. -/
def IsGovernance (s : State) (vaa : ParsedVAA) : Prop :=
  s.govChain = vaa.emitterChain ∧ s.govAddress = vaa.emitterAddress

instance (s : State) (vaa : ParsedVAA) : Decidable (IsGovernance s vaa) := instDecidableAnd

/-- The cache after a deployment. -/
def cacheDeployed (s : State) (info : TransferInfo) : FixedBytes 32 → Option SplCacheItem :=
  if info.nftChain = 1 then
    Function.update s.splCache info.tokenId (some { name := info.name, symbol := info.symbol })
  else s.splCache

/-- **What a message does**: registers a bridge, mints an NFT in the contract of its collection, deploys that
contract with the NFT, or gives a native NFT back. -/
inductive Completes (env : Env) (chain : Chain) (w : World) (vaa : ParsedVAA) : World → Prop where
  | governance {w' : World} (hgovernance : IsGovernance w.bridge vaa) (hassets : SameAssets w.bridge w'.bridge)
      (hnfts : w'.nfts = w.nfts) : Completes env chain w vaa w'
  | mint {w' : World} {info : TransferInfo} {contractAddr recipient tokenUri : String} {nft nft' : Cw721.State}
      (hgovernance : ¬IsGovernance w.bridge vaa) (hparse : parseTransferMessage vaa.payload = .ok info)
      (hchain : info.nftChain ≠ CHAIN_ID) (huri : asBytes tokenUri = info.uri.val)
      (hwrapped : w.bridge.wrappedAsset (buildAssetId env info.nftChain info.nftAddress) = some contractAddr)
      (hnft : w.nfts contractAddr = some nft)
      (hmint : Cw721.mint env.api nft env.self (env.formatU256 info.tokenId) recipient (some tokenUri) = .ok nft')
      (hassets : SameAssets w.bridge w'.bridge)
      (hnfts : w'.nfts = Function.update w.nfts contractAddr (some nft')) : Completes env chain w vaa w'
  | deploy {w' : World} {info : TransferInfo} {name symbol recipient tokenUri : String} {nft nft' : Cw721.State}
      {canonical : List UInt8}
      (hgovernance : ¬IsGovernance w.bridge vaa) (hparse : parseTransferMessage vaa.payload = .ok info)
      (hchain : info.nftChain ≠ CHAIN_ID) (huri : asBytes tokenUri = info.uri.val)
      (hwrapped : w.bridge.wrappedAsset (buildAssetId env info.nftChain info.nftAddress) = none)
      (hunused : w.Unused env.self chain.newAddress)
      (hnft : Cw721.instantiate env.api name symbol env.self
        (some { assetChain := info.nftChain, assetAddress := info.nftAddress.val }) = .ok nft)
      (hmint : Cw721.mint env.api nft env.self (env.formatU256 info.tokenId) recipient (some tokenUri) = .ok nft')
      (hcanonical : env.api.addrCanonicalize chain.newAddress = .ok canonical)
      (hasset : w'.bridge.wrappedAsset = Function.update w.bridge.wrappedAsset
        (buildAssetId env info.nftChain info.nftAddress) (some chain.newAddress))
      (haddress : w'.bridge.wrappedAssetAddress = Function.update w.bridge.wrappedAssetAddress canonical
        (some (buildAssetId env info.nftChain info.nftAddress)))
      (hcache : w'.bridge.splCache = cacheDeployed w.bridge info)
      (hnfts : w'.nfts = Function.update w.nfts chain.newAddress (some nft')) : Completes env chain w vaa w'
  | native {w' : World} {info : TransferInfo} {contractAddr recipient tokenId : String} {nft nft' : Cw721.State}
      (hgovernance : ¬IsGovernance w.bridge vaa) (hparse : parseTransferMessage vaa.payload = .ok info)
      (hchain : info.nftChain = CHAIN_ID) (hnft : w.nfts contractAddr = some nft)
      (htransfer : Cw721.transferNft env.api chain.block nft env.self recipient tokenId = .ok nft')
      (hassets : SameAssets w.bridge w'.bridge)
      (hnfts : w'.nfts = Function.update w.nfts contractAddr (some nft')) : Completes env chain w vaa w'

theorem handleRegisterAsset_eq_ok {sender : String} {assetId : List UInt8}
    (h : handleRegisterAsset env s sender assetId = .ok s') :
    s.wrappedAsset assetId = some wrappedAssetUpdating ∧
      ∃ canonical, env.api.addrCanonicalize sender = .ok canonical ∧ s' = { s with
        wrappedAsset := Function.update s.wrappedAsset assetId (some sender)
        wrappedAssetAddress := Function.update s.wrappedAssetAddress canonical (some assetId) } := by
  simp only [handleRegisterAsset, Go.bind_eq_ok, okOr_eq_ok, ensure_eq_ok] at h
  obtain ⟨result, hresult, _, rfl, canonical, hcanonical, h⟩ := h
  exact ⟨hresult, canonical, hcanonical, (Go.ok.inj h).symm⟩

theorem handleGovernancePayload_eq_ok {data : List UInt8} {messages : List Message}
    (h : handleGovernancePayload env s data = .ok (s', messages)) : SameAssets s s' ∧ messages = [] := by
  simp only [handleGovernancePayload, handleRegisterChain, Go.bind_eq_ok] at h
  obtain ⟨packet, -, _, -, _, -, _, -, s₁, ⟨chainId, -, address, -, _, -, hs₁⟩, h⟩ := h
  cases hs₁
  cases h
  exact ⟨⟨rfl, rfl, rfl⟩, rfl⟩

/-- The first NFT of a collection is minted where the contract is deployed. -/
theorem deliver_instantiate_eq_ok {name symbol tokenId owner tokenUri : String} {asset : Cw721.WrappedAssetInfo}
    {assetId : List UInt8}
    (h : deliver env chain w (.instantiate name symbol asset tokenId owner tokenUri assetId) = .ok w') :
    w.Unused env.self chain.newAddress ∧
      ∃ nft nft' canonical, Cw721.instantiate env.api name symbol env.self (some asset) = .ok nft ∧
        Cw721.mint env.api nft env.self tokenId owner (some tokenUri) = .ok nft' ∧
        env.api.addrCanonicalize chain.newAddress = .ok canonical ∧
        w' = { w with bridge := { w.bridge with
          wrappedAsset := Function.update w.bridge.wrappedAsset assetId (some chain.newAddress)
          wrappedAssetAddress := Function.update w.bridge.wrappedAssetAddress canonical (some assetId) }
            }.setNft chain.newAddress nft' := by
  simp only [deliver, Go.bind_eq_ok, ensure_eq_ok] at h
  obtain ⟨_, hunused, nft, hnft, nft', hmint, bridge, hregister, h⟩ := h
  obtain ⟨-, canonical, hcanonical, rfl⟩ := handleRegisterAsset_eq_ok hregister
  exact ⟨hunused, nft, nft', canonical, hnft, hmint, hcanonical, (Go.ok.inj h).symm⟩

theorem deployWrapped_eq (s : State) (info : TransferInfo) (tokenId recipient tokenUri : String) :
    ∃ name symbol, deployWrapped env s info tokenId recipient tokenUri =
      ({ setUpdating s (buildAssetId env info.nftChain info.nftAddress) with splCache := cacheDeployed s info },
        [.instantiate name symbol { assetChain := info.nftChain, assetAddress := info.nftAddress.val } tokenId
          recipient tokenUri (buildAssetId env info.nftChain info.nftAddress)]) := by
  unfold deployWrapped cacheDeployed
  split <;> exact ⟨_, _, rfl⟩

theorem dispatch_singleton {message : Message} :
    dispatch env chain w (s, [message]) = .ok w' ↔ deliver env chain { w with bridge := s } message = .ok w' := by
  simp only [dispatch, List.foldlM_cons, List.foldlM_nil, Go.bind_eq_ok]
  constructor
  · rintro ⟨w₁, hdeliver, h⟩
    cases h
    exact hdeliver
  · intro h
    exact ⟨w', h, rfl⟩

/-- **A completed transfer.** -/
theorem completeTransfer_eq_ok {vaa : ParsedVAA} (h : completeTransfer env chain w vaa = .ok w') :
    Completes env chain w vaa w' := by
  obtain ⟨⟨s', messages⟩, hsubmit, hdispatch⟩ := Go.bind_eq_ok.mp h
  obtain ⟨_, -, hsubmit⟩ := Go.bind_eq_ok.mp hsubmit
  dsimp only at hsubmit
  split at hsubmit
  · rename_i hgovernance
    obtain ⟨hassets, rfl⟩ := handleGovernancePayload_eq_ok hsubmit
    cases hdispatch
    exact .governance hgovernance ⟨hassets.wrappedAsset, hassets.wrappedAssetAddress, hassets.splCache⟩ rfl
  · rename_i hgovernance
    obtain ⟨info, hparse, hhandle⟩ := Go.bind_eq_ok.mp hsubmit
    simp only [handleCompleteTransfer, Go.bind_eq_ok, okOr_eq_ok, ensure_eq_ok] at hhandle
    obtain ⟨_, -, _, -, _, -, recipient, -, tokenId, htokenId, hhandle⟩ := hhandle
    split at hhandle
    · rename_i hchain
      rw [fromExternalTokenId, if_neg hchain] at htokenId
      cases htokenId
      simp only [completeWrapped, Go.bind_eq_ok, okOr_eq_ok, fromUtf8_eq_some] at hhandle
      obtain ⟨tokenUri, huri, hhandle⟩ := hhandle
      split at hhandle
      · rename_i contractAddr hwrapped
        cases hhandle
        obtain ⟨nft, nft', hnft, hmint, rfl⟩ := deliver_execute_eq_ok.mp (dispatch_singleton.mp hdispatch)
        exact .mint hgovernance hparse hchain huri hwrapped hnft hmint ⟨rfl, rfl, rfl⟩ rfl
      · rename_i hwrapped
        have hdeploy := Go.ok.inj hhandle
        obtain ⟨name, symbol, hdeployed⟩ := deployWrapped_eq _ info _ recipient tokenUri
        rw [hdeployed] at hdeploy
        cases hdeploy
        obtain ⟨hunused, nft, nft', canonical, hnft, hmint, hcanonical, rfl⟩ :=
          deliver_instantiate_eq_ok (dispatch_singleton.mp hdispatch)
        refine .deploy hgovernance hparse hchain huri hwrapped hunused hnft hmint hcanonical ?_ rfl rfl rfl
        exact Function.update_idem ..
    · rename_i hchain
      obtain ⟨contractAddr, -, hhandle⟩ := Go.bind_eq_ok.mp hhandle
      cases hhandle
      obtain ⟨nft, nft', hnft, htransfer, rfl⟩ := deliver_execute_eq_ok.mp (dispatch_singleton.mp hdispatch)
      exact .native hgovernance hparse (not_not.mp hchain) hnft htransfer ⟨rfl, rfl, rfl⟩ rfl

end Specs

end Wormhole.Terra.NftBridge
