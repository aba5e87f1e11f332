/-
# Wormhole.Ethereum.NFTBridge — who can bridge an NFT out.

`NFTBridge.sol` with the governance action that registers emitters.  A `World` is the storage of the
bridge and of its wrapped NFT contracts together with everything else on the chain, whose behaviour is
a parameter (`Environment`): native NFT contracts, code at other addresses, the core contract.

Every external call of the bridge is made after its last storage access (or is a static call), so a
call that re-enters the bridge is the same as one made right after; steps are therefore whole calls.
Replacing the implementation (`upgrade`) replaces the code modelled here and is left out.
-/
import Mathlib
import Wormhole.Lib.Failing
import Wormhole.Lib.Mapping
import Wormhole.Lib.Transition
import Wormhole.Ethereum.Messages
import Wormhole.Ethereum.NFTImplementation

namespace Wormhole.Ethereum.NFTBridge

open Wormhole.Lib.Bytes Wormhole.Lib.Failing Wormhole.Lib.Transition
open Wormhole.Lib.Mapping (update_eq_some)

/-! ## State -/

structure SPLCache where
  name : Word
  symbol : Word

structure State where
  /-- `address(this)` -/
  self : Address
  chainId : Nat
  governanceChainId : Nat
  governanceContract : Word
  consumedGovernanceActions : List UInt8 → Bool
  completedTransfers : List UInt8 → Bool
  wrappedAssets : Nat → Word → Address
  isWrappedAsset : Address → Bool
  bridgeImplementations : Nat → Word
  splCache : Word → SPLCache

/-- The rest of the chain, in state `ν`. -/
structure Environment (ν : Type) where
  hasCode : ν → Address → Bool
  supportsInterface : ν → Address → Nat → Revert Bool
  symbol : ν → Address → Revert (List UInt8)
  name : ν → Address → Revert (List UInt8)
  tokenURI : ν → Address → Word → Revert (List UInt8)
  /-- `token.safeTransferFrom(source, recipient, tokenID)` called by `sender`: arguments in the order
  `token sender source recipient tokenID`. -/
  safeTransferFrom : ν → Address → Address → Address → Address → Word → Revert ν
  /-- `wormhole().publishMessage{value}(nonce, payload, consistencyLevel)` called by the bridge:
  arguments in the order `value nonce payload consistencyLevel`. -/
  publishMessage : ν → Nat → Nat → List UInt8 → Nat → Revert (Nat × ν)
  /-- The address `create2` computes for a collection with this chain, address, name and symbol. -/
  create2 : Nat → Word → List UInt8 → List UInt8 → Address
  /-- The word of memory behind the symbol and the name that `transferNFT` has decoded. -/
  memory : Word

structure World (ν : Type) where
  bridge : State
  /-- the wrapped NFT contracts -/
  nfts : Address → Option NFTImplementation.State
  env : ν

/-! ## The transfer payload -/

/-- `NFTBridgeStructs.Transfer`. -/
structure Transfer where
  tokenAddress : Word
  tokenChain : Nat
  symbol : Word
  name : Word
  tokenID : Word
  uri : List UInt8
  recipient : Word
  toChain : Nat

def encodeTransfer (transfer : Transfer) : Revert (List UInt8) := do
  require (transfer.uri.length ≤ 200) "tokenURI must not exceed 200 bytes"
  return [0x01] ++ transfer.tokenAddress.val ++ beBytes 2 transfer.tokenChain ++
    transfer.symbol.val ++ transfer.name.val ++ transfer.tokenID.val ++
    [UInt8.ofNat transfer.uri.length] ++ transfer.uri ++ transfer.recipient.val ++
    beBytes 2 transfer.toChain

/-- `parseTransfer`; the tail is read backwards from the end. -/
def parseTransfer (encoded : List UInt8) : Revert Transfer := do
  let payloadID ← toUint8 encoded 0
  require (payloadID = 1) "invalid Transfer"
  let tokenAddress ← toWord "toBytes32_outOfBounds" encoded 1
  let tokenChain ← toUint16 encoded 33
  let symbol ← toWord "toBytes32_outOfBounds" encoded 35
  let name ← toWord "toBytes32_outOfBounds" encoded 67
  let tokenID ← toWord "toUint256_outOfBounds" encoded 99
  -- Ignore length due to malformatted payload
  let uri ← slice encoded 132 (← subUint (← subUint encoded.length 132) 34)
  let index ← subUint encoded.length 2
  let toChain ← toUint16 encoded index
  let index ← subUint index 32
  let recipient ← toWord "toBytes32_outOfBounds" encoded index
  return { tokenAddress, tokenChain, symbol, name, tokenID, uri, recipient, toChain }

/-- "Wormhole Bridged Solana-NFT" - right-padded -/
def solanaName : Word := ⟨[0x57, 0x6f, 0x72, 0x6d, 0x68, 0x6f, 0x6c, 0x65, 0x20, 0x42, 0x72, 0x69,
  0x64, 0x67, 0x65, 0x64, 0x20, 0x53, 0x6f, 0x6c, 0x61, 0x6e, 0x61, 0x2d, 0x4e, 0x46, 0x54, 0x00,
  0x00, 0x00, 0x00, 0x00], rfl⟩

/-- "WORMSPLNFT" - right-padded -/
def solanaSymbol : Word := ⟨[0x57, 0x4f, 0x52, 0x4d, 0x53, 0x50, 0x4c, 0x4e, 0x46, 0x54, 0x00, 0x00,
  0x00, 0x00, 0x00, 0x00, 0x00, 0x00, 0x00, 0x00, 0x00, 0x00, 0x00, 0x00, 0x00, 0x00, 0x00, 0x00,
  0x00, 0x00, 0x00, 0x00], rfl⟩

/-! ## The bridge -/

section Bridge

variable {ν : Type} (env : Environment ν)

/-- A call into the wrapped NFT contract at `token`. -/
def nftAt (w : World ν) (token : Address) : Revert NFTImplementation.State :=
  match w.nfts token with
  | some nft => .ok nft
  | none => .error ""

/-- Write back the storage of a wrapped NFT contract. -/
def World.setNft (w : World ν) (token : Address) (nft : NFTImplementation.State) : World ν :=
  { w with nfts := Function.update w.nfts token (some nft) }

/-- `IERC721(token).safeTransferFrom` called by the bridge, on a wrapped or on any other contract.
The bridge accepts the tokens it asks for itself (`onERC721Received`). -/
def callSafeTransferFrom (w : World ν) (token source recipient : Address) (tokenID : Word)
    (received : Revert Unit) : Revert (World ν) :=
  match w.nfts token with
  | some nft => do
    let nft ← NFTImplementation.safeTransferFrom nft w.bridge.self source recipient tokenID received
    return w.setNft token nft
  | none => do
    let e ← env.safeTransferFrom w.env token w.bridge.self source recipient tokenID
    return { w with env := e }

/-- `logTransfer`. -/
def logTransfer (w : World ν) (transfer : Transfer) (callValue nonce : Nat) :
    Revert (World ν × Nat) := do
  let encoded ← encodeTransfer transfer
  let (sequence, e) ← env.publishMessage w.env callValue nonce encoded 15
  return ({ w with env := e }, sequence)

/-- The token parameters `transferNFT` determines first: chain, address, symbol, name and URI. -/
def tokenParameters (w : World ν) (token : Address) (tokenID : Word) :
    Revert (Nat × Word × List UInt8 × List UInt8 × List UInt8) := do
  if w.bridge.isWrappedAsset token then
    let nft ← nftAt w token
    let uri ← NFTImplementation.tokenURI nft tokenID
    return (nft.chainId, nft.nativeContract, nft.symbol, nft.name, uri)
  else
    -- Verify that the correct interfaces are implemented
    require ((← env.supportsInterface w.env token 0x80ac58cd) = true)
      "must support the ERC721 interface"
    require ((← env.supportsInterface w.env token 0x5b5e139f) = true)
      "must support the ERC721-Metadata extension"
    if w.bridge.chainId ≠ 1 then -- SPL tokens use cache
      let symbol ← env.symbol w.env token
      let name ← env.name w.env token
      let uri ← env.tokenURI w.env token tokenID
      return (w.bridge.chainId, token.toWord, symbol, name, uri)
    else
      let uri ← env.tokenURI w.env token tokenID
      return (w.bridge.chainId, token.toWord, [], [], uri)

/-- `clearSplCache`. -/
def clearSplCache (s : State) (tokenID : Word) : State :=
  { s with splCache := Function.update s.splCache tokenID { name := zeroWord, symbol := zeroWord } }

/-- `NFTImplementation(token).burn(tokenID)` called by the bridge. -/
def burnWrapped (w : World ν) (token : Address) (tokenID : Word) : Revert (World ν) := do
  let nft ← nftAt w token
  let nft ← NFTImplementation.burn nft w.bridge.self tokenID
  return w.setNft token nft

/-- The part of `transferNFT` that takes the token: a native one is moved from `msg.sender` to the
bridge, a wrapped one is burned. -/
def takeToken (w : World ν) (sender token : Address) (tokenID : Word) (tokenChain : Nat) :
    Revert (World ν) :=
  if tokenChain = w.bridge.chainId then
    callSafeTransferFrom env w token sender w.bridge.self tokenID (.ok ())
  else burnWrapped w token tokenID

/-- `transferNFT`: initiate a transfer. -/
def transferNFT (w : World ν) (sender token : Address) (tokenID : Word) (recipientChain : Nat)
    (recipient : Word) (nonce value : Nat) : Revert (World ν × Nat) := do
  -- determine token parameters
  let (tokenChain, tokenAddress, symbolString, nameString, uri) ←
    tokenParameters env w token tokenID
  -- use cached SPL token info, as the contracts uses unified values
  let (symbol, name) := if tokenChain = 1 then
      ((w.bridge.splCache tokenID).symbol, (w.bridge.splCache tokenID).name)
    -- the two strings lie one behind the other
    else (firstWord (lengthWord nameString) symbolString, firstWord env.memory nameString)
  let w := if tokenChain = 1 then { w with bridge := clearSplCache w.bridge tokenID } else w
  let w ← takeToken env w sender token tokenID tokenChain
  logTransfer env w { tokenAddress, tokenChain, symbol, name, tokenID, uri, recipient,
                      toChain := recipientChain } value nonce

def setWrappedAsset (s : State) (tokenChain : Nat) (tokenAddress : Word) (wrapper : Address) : State :=
  { s with
    wrappedAssets := Function.update s.wrappedAssets tokenChain
      (Function.update (s.wrappedAssets tokenChain) tokenAddress wrapper)
    isWrappedAsset := Function.update s.isWrappedAsset wrapper true }

/-- `_createWrapped`: deploy and initialise a wrapped NFT contract. -/
def createWrapped (w : World ν) (tokenChain : Nat) (tokenAddress name symbol : Word) :
    Revert (World ν × Address) := do
  require (tokenChain ≠ w.bridge.chainId) "can only wrap tokens from foreign chains"
  require (w.bridge.wrappedAssets tokenChain tokenAddress = zeroAddress)
    "wrapped asset already exists"
  -- SPL NFTs all use the same NFT contract, so unify the name
  let (name, symbol) := if tokenChain = 1 then (solanaName, solanaSymbol) else (name, symbol)
  let nft ← NFTImplementation.initializeContract .empty (bytes32ToString name)
    (bytes32ToString symbol) w.bridge.self tokenChain tokenAddress
  let token := env.create2 tokenChain tokenAddress (bytes32ToString name) (bytes32ToString symbol)
  -- `create2` fails where there is code
  require ((w.nfts token).isNone ∧ env.hasCode w.env token = false ∧ token ≠ w.bridge.self ∧
    token ≠ zeroAddress) ""
  let bridge := setWrappedAsset w.bridge tokenChain tokenAddress token
  return ({ w with bridge }.setNft token nft, token)

/-- The wrapped asset of a transfer; if it does not exist yet, create it. -/
def wrappedAssetOf (w : World ν) (transfer : Transfer) : Revert (World ν × Address) :=
  if w.bridge.wrappedAssets transfer.tokenChain transfer.tokenAddress = zeroAddress then
    createWrapped env w transfer.tokenChain transfer.tokenAddress transfer.name transfer.symbol
  else .ok (w, w.bridge.wrappedAssets transfer.tokenChain transfer.tokenAddress)

/-- The part of `_completeTransfer` that mints a wrapped asset. -/
def mintWrapped (w : World ν) (transfer : Transfer) : Revert (World ν) := do
  let (w, wrapped) ← wrappedAssetOf env w transfer
  -- Cache SPL token info which otherwise would get lost
  let cache : SPLCache := { name := transfer.name, symbol := transfer.symbol }
  let bridge := if transfer.tokenChain = 1 then
      { w.bridge with splCache := Function.update w.bridge.splCache transfer.tokenID cache }
    else w.bridge
  let nft ← nftAt w wrapped
  let nft ← NFTImplementation.mint nft w.bridge.self transfer.recipient.toAddress transfer.tokenID
    transfer.uri
  return { w with bridge }.setNft wrapped nft

def setTransferCompleted (s : State) (hash : List UInt8) : State :=
  { s with completedTransfers := Function.update s.completedTransfers hash true }

/-- `_completeTransfer`, given what `parseAndVerifyVM` has returned; `received` is the recipient's
answer to `onERC721Received` when the token is a wrapped one. -/
def completeTransfer (w : World ν) (vm : VM) (valid : Bool) (reason : String)
    (received : Revert Unit) : Revert (World ν) := do
  require (valid = true) reason
  require ((w.bridge.bridgeImplementations vm.emitterChainId).val = vm.emitterAddress)
    "invalid emitter"
  let transfer ← parseTransfer vm.payload
  require (w.bridge.completedTransfers vm.hash = false) "transfer already completed"
  let w := { w with bridge := setTransferCompleted w.bridge vm.hash }
  require (transfer.toChain = w.bridge.chainId) "invalid target chain"
  -- transfer bridged NFT to recipient
  if transfer.tokenChain = w.bridge.chainId then
    callSafeTransferFrom env w transfer.tokenAddress.toAddress w.bridge.self
      transfer.recipient.toAddress transfer.tokenID received
  else mintWrapped env w transfer

/-- "NFTBridge" (left padded) -/
def module : List UInt8 :=
  List.replicate 23 0x00 ++ [0x4e, 0x46, 0x54, 0x42, 0x72, 0x69, 0x64, 0x67, 0x65]

/-- `NFTBridgeStructs.RegisterChain` without its constant fields. -/
structure RegisterChain where
  chainId : Nat
  emitterChainID : Nat
  emitterAddress : Word

def parseRegisterChain (encoded : List UInt8) : Revert RegisterChain := do
  let module' ← toBytes32 encoded 0
  require (module' = module) "invalid RegisterChain: wrong module"
  let action ← toUint8 encoded 32
  require (action = 1) "invalid RegisterChain: wrong action"
  let chainId ← toUint16 encoded 33
  let emitterChainID ← toUint16 encoded 35
  let emitterAddress ← toWord "toBytes32_outOfBounds" encoded 37
  require (encoded.length = 69) "invalid RegisterChain: wrong length"
  return { chainId, emitterChainID, emitterAddress }

def parseUpgrade : List UInt8 → Revert UpgradeContract := parseUpgradeContract module

/-- `verifyGovernanceVM`, given what `parseAndVerifyVM` has returned. -/
def verifyGovernanceVM (s : State) (vm : VM) (valid : Bool) (reason : String) : Bool × String :=
  if valid = false then (false, reason)
  else if vm.emitterChainId ≠ s.governanceChainId then (false, "wrong governance chain")
  else if vm.emitterAddress ≠ s.governanceContract.val then (false, "wrong governance contract")
  else if s.consumedGovernanceActions vm.hash then (false, "governance action already consumed")
  else (true, "")

/-- `registerChain`: execute a RegisterChain governance message. -/
def registerChain (s : State) (vm : VM) (valid : Bool) (reason : String) : Revert State := do
  let (valid, reason) := verifyGovernanceVM s vm valid reason
  require (valid = true) reason
  let chain ← parseRegisterChain vm.payload
  require (chain.chainId = s.chainId ∨ chain.chainId = 0) "invalid chain id"
  return { s with
    consumedGovernanceActions := Function.update s.consumedGovernanceActions vm.hash true
    bridgeImplementations :=
      Function.update s.bridgeImplementations chain.emitterChainID chain.emitterAddress }

/-! ## Runs -/

/-- A transaction: a call of the bridge, a call of a wrapped NFT contract by somebody else, or a
change of the rest of the chain. -/
inductive Input (ν : Type) where
  | transferNFT (sender token : Address) (tokenID : Word) (recipientChain : Nat) (recipient : Word)
      (nonce value : Nat)
  | completeTransfer (vm : VM) (valid : Bool) (reason : String) (received : Revert Unit)
  | registerChain (vm : VM) (valid : Bool) (reason : String)
  | nft (sender token : Address) (call : NFTImplementation.Call)
  | rest (e : ν)

/-- One transaction; a revert rejects it. -/
def step (w : World ν) : Input ν → Option (World ν)
  | .transferNFT sender token tokenID recipientChain recipient nonce value =>
    ((NFTBridge.transferNFT env w sender token tokenID recipientChain recipient nonce value).map
      Prod.fst).toOption
  | .completeTransfer vm valid reason received =>
    (NFTBridge.completeTransfer env w vm valid reason received).toOption
  | .registerChain vm valid reason =>
    ((NFTBridge.registerChain w.bridge vm valid reason).map fun bridge =>
      { w with bridge }).toOption
  | .nft sender token call =>
    -- the bridge makes no calls but those above
    if sender = w.bridge.self then none
    else ((nftAt w token).bind fun nft => (call.run nft sender).map (w.setNft token)).toOption
  | .rest e => some { w with env := e }

/-- A bridge that has wrapped nothing yet. -/
def Fresh (w : World ν) : Prop :=
  (∀ token, w.bridge.isWrappedAsset token = false) ∧ ∀ token, w.nfts token = none

/-- The worlds some run of transactions leads to. -/
def Reachable (w : World ν) : Prop :=
  ∃ w₀, Fresh w₀ ∧ Run (step env) (fun _ _ => True) w₀ w

/-! ## The invariant -/

/-- **The wrapped assets are the bridge's.** An address is a wrapped asset exactly when it holds a
wrapped NFT contract; that contract is initialised, owned by the bridge and of a foreign chain. -/
structure Wrapped (w : World ν) : Prop where
  isSome_iff : ∀ token, (w.nfts token).isSome ↔ w.bridge.isWrappedAsset token = true
  nft : ∀ token nft, w.nfts token = some nft →
    nft.initialized = true ∧ nft.owner = w.bridge.self ∧ nft.chainId ≠ w.bridge.chainId

theorem Wrapped.of_fresh {w : World ν} (h : Fresh w) : Wrapped w :=
  ⟨fun token => by simp [h.1 token, h.2 token], fun token nft hnft => by
    rw [h.2 token] at hnft
    cases hnft⟩

/-- The fields the invariant reads. -/
structure SameBridge (w w' : World ν) : Prop where
  self : w'.bridge.self = w.bridge.self
  chainId : w'.bridge.chainId = w.bridge.chainId
  isWrappedAsset : w'.bridge.isWrappedAsset = w.bridge.isWrappedAsset

theorem Wrapped.frame {w w' : World ν} (h : Wrapped w) (hbridge : SameBridge w w')
    (hnfts : w'.nfts = w.nfts) : Wrapped w' := by
  refine ⟨fun token => ?_, fun token nft hnft => ?_⟩
  · rw [hnfts, hbridge.isWrappedAsset]
    exact h.isSome_iff token
  · rw [hbridge.self, hbridge.chainId]
    exact h.nft token nft (hnfts ▸ hnft)

/-- Writing back a wrapped contract that is still itself. -/
theorem Wrapped.setNft {w : World ν} {token : Address} {nft nft' : NFTImplementation.State}
    (h : Wrapped w) (hnft : w.nfts token = some nft)
    (hsame : NFTImplementation.SameIdentity nft nft') : Wrapped (w.setNft token nft') := by
  obtain ⟨hinit, howner, hchain⟩ := h.nft token nft hnft
  refine ⟨fun a => ?_, fun a nft₁ hnft₁ => ?_⟩
  · by_cases ha : a = token
    · subst ha
      have := (h.isSome_iff a).mp (by rw [hnft, Option.isSome_some])
      simpa [World.setNft] using this
    · simpa [World.setNft, Function.update_of_ne ha] using h.isSome_iff a
  · rcases update_eq_some hnft₁ with ⟨-, rfl⟩ | hold
    · exact ⟨hsame.initialized.trans hinit, hsame.owner.trans howner, by
        rw [hsame.chainId]
        exact hchain⟩
    · exact h.nft a nft₁ hold

section Steps

variable {env} {w w' : World ν}

theorem nftAt_eq_ok {token : Address} {nft : NFTImplementation.State} :
    nftAt w token = .ok nft ↔ w.nfts token = some nft := by
  unfold nftAt
  split <;> simp_all

/-- A transfer called by the bridge moves a wrapped token or happens outside. -/
theorem callSafeTransferFrom_eq_ok {token source recipient : Address} {tokenID : Word}
    {received : Revert Unit}
    (h : callSafeTransferFrom env w token source recipient tokenID received = .ok w') :
    (∃ nft nft', w.nfts token = some nft ∧ NFTImplementation.SameIdentity nft nft' ∧
      w' = w.setNft token nft') ∨
    (w.nfts token = none ∧ ∃ e, env.safeTransferFrom w.env token w.bridge.self source recipient
      tokenID = .ok e ∧ w' = { w with env := e }) := by
  unfold callSafeTransferFrom at h
  split at h
  · rename_i nft hnft
    obtain ⟨nft', hcall, heq⟩ := bind_eq_ok.mp h
    simp only [NFTImplementation.safeTransferFrom, NFTImplementation.transferFrom,
      bind_eq_ok] at hcall
    obtain ⟨s', ⟨_, -, _, -, htransfer⟩, _, -, hret⟩ := hcall
    obtain rfl := Except.ok.inj hret
    exact .inl ⟨nft, s', hnft, (NFTImplementation.transfer_eq_ok htransfer).1,
      (Except.ok.inj heq).symm⟩
  · rename_i hnft
    obtain ⟨e, hcall, heq⟩ := bind_eq_ok.mp h
    exact .inr ⟨hnft, e, hcall, (Except.ok.inj heq).symm⟩

theorem Wrapped.callSafeTransferFrom {token source recipient : Address} {tokenID : Word}
    {received : Revert Unit} (hw : Wrapped w)
    (h : NFTBridge.callSafeTransferFrom env w token source recipient tokenID received = .ok w') :
    Wrapped w' := by
  rcases callSafeTransferFrom_eq_ok h with ⟨nft, nft', hnft, hsame, rfl⟩ | ⟨-, e, -, rfl⟩
  · exact hw.setNft hnft hsame
  · exact hw.frame ⟨rfl, rfl, rfl⟩ rfl

theorem burnWrapped_eq_ok {token : Address} {tokenID : Word}
    (h : burnWrapped w token tokenID = .ok w') :
    ∃ nft nft', w.nfts token = some nft ∧
      NFTImplementation.burn nft w.bridge.self tokenID = .ok nft' ∧ w' = w.setNft token nft' := by
  simp only [burnWrapped, bind_eq_ok, nftAt_eq_ok] at h
  obtain ⟨nft, hnft, nft', hburn, heq⟩ := h
  exact ⟨nft, nft', hnft, hburn, (Except.ok.inj heq).symm⟩

theorem logTransfer_eq_ok {transfer : Transfer} {callValue nonce sequence : Nat}
    (h : logTransfer env w transfer callValue nonce = .ok (w', sequence)) :
    ∃ e, w' = { w with env := e } := by
  simp only [logTransfer, bind_eq_ok] at h
  obtain ⟨_, -, ⟨_, e⟩, -, heq⟩ := h
  exact ⟨e, (congrArg Prod.fst (Except.ok.inj heq)).symm⟩

/-- The chain of a token, as `transferNFT` determines it. -/
theorem tokenParameters_eq_ok {token : Address} {tokenID tokenAddress : Word} {tokenChain : Nat}
    {symbol name uri : List UInt8}
    (h : tokenParameters env w token tokenID = .ok (tokenChain, tokenAddress, symbol, name, uri)) :
    (w.bridge.isWrappedAsset token = true ∧ ∃ nft, w.nfts token = some nft ∧
      tokenChain = nft.chainId) ∨
    (w.bridge.isWrappedAsset token = false ∧ tokenChain = w.bridge.chainId) := by
  unfold tokenParameters at h
  split at h
  · rename_i hwrapped
    simp only [bind_eq_ok, nftAt_eq_ok] at h
    obtain ⟨nft, hnft, _, -, heq⟩ := h
    exact .inl ⟨hwrapped, nft, hnft, (congrArg Prod.fst (Except.ok.inj heq)).symm⟩
  · rename_i hnative
    simp only [bind_eq_ok] at h
    obtain ⟨_, -, _, -, _, -, _, -, h⟩ := h
    refine .inr ⟨by simpa using hnative, ?_⟩
    split at h
    · simp only [bind_eq_ok] at h
      obtain ⟨_, -, _, -, _, -, heq⟩ := h
      exact (congrArg Prod.fst (Except.ok.inj heq)).symm
    · simp only [bind_eq_ok] at h
      obtain ⟨_, -, heq⟩ := h
      exact (congrArg Prod.fst (Except.ok.inj heq)).symm

/-- **What a successful `transferNFT` does.** A wrapped token is burned by the bridge, as its owner;
any other token is moved by its own contract from the sender to the bridge. -/
theorem transferNFT_cases {sender token : Address} {tokenID recipient : Word}
    {recipientChain nonce value sequence : Nat} (hw : Wrapped w)
    (h : transferNFT env w sender token tokenID recipientChain recipient nonce value
      = .ok (w', sequence)) :
    SameBridge w w' ∧
    ((w.bridge.isWrappedAsset token = true ∧ ∃ nft nft', w.nfts token = some nft ∧
        NFTImplementation.burn nft w.bridge.self tokenID = .ok nft' ∧
        w'.nfts = Function.update w.nfts token (some nft')) ∨
      (w.bridge.isWrappedAsset token = false ∧ w'.nfts = w.nfts ∧
        ∃ e, env.safeTransferFrom w.env token w.bridge.self sender w.bridge.self tokenID
          = .ok e)) := by
  simp only [transferNFT, bind_eq_ok] at h
  obtain ⟨⟨tokenChain, tokenAddress, symbol, name, uri⟩, hparams, w₂, hmove, hlog⟩ := h
  obtain ⟨e, rfl⟩ := logTransfer_eq_ok hlog
  -- clearing the cache touches nothing the move reads
  obtain ⟨w₁, hw₁, hsame, hnfts, henv⟩ : ∃ w₁ : World ν,
      w₁ = (if tokenChain = 1 then { w with bridge := clearSplCache w.bridge tokenID } else w) ∧
      SameBridge w w₁ ∧ w₁.nfts = w.nfts ∧ w₁.env = w.env := by
    refine ⟨_, rfl, ?_⟩
    split <;> exact ⟨⟨rfl, rfl, rfl⟩, rfl, rfl⟩
  rw [← hw₁] at hmove
  rcases tokenParameters_eq_ok hparams with ⟨hwrapped, nft, hnft, rfl⟩ | ⟨hnative, rfl⟩
  · have hforeign := (hw.nft token nft hnft).2.2
    rw [takeToken, if_neg (by rwa [hsame.chainId])] at hmove
    obtain ⟨nft₁, nft', hnft₁, hburn, rfl⟩ := burnWrapped_eq_ok hmove
    rw [hnfts] at hnft₁
    rw [hsame.self] at hburn
    refine ⟨⟨hsame.self, hsame.chainId, hsame.isWrappedAsset⟩,
      .inl ⟨hwrapped, nft₁, nft', hnft₁, hburn, ?_⟩⟩
    show Function.update w₁.nfts token (some nft') = _
    rw [hnfts]
  · rw [takeToken, if_pos hsame.chainId.symm] at hmove
    have hnone : w.nfts token = none := by
      rw [← Option.not_isSome_iff_eq_none, hw.isSome_iff, hnative]
      simp
    rcases callSafeTransferFrom_eq_ok hmove with ⟨nft, _, hnft, -, -⟩ | ⟨-, e', hcall, rfl⟩
    · rw [hnfts, hnone] at hnft
      cases hnft
    · rw [hsame.self, henv] at hcall
      exact ⟨⟨hsame.self, hsame.chainId, hsame.isWrappedAsset⟩, .inr ⟨hnative, hnfts, e', hcall⟩⟩

/-- A created wrapped asset is one. -/
theorem Wrapped.createWrapped {tokenChain : Nat} {tokenAddress name symbol : Word} {token : Address}
    (hw : Wrapped w)
    (h : NFTBridge.createWrapped env w tokenChain tokenAddress name symbol = .ok (w', token)) :
    Wrapped w' ∧ w'.bridge.self = w.bridge.self ∧ w'.bridge.chainId = w.bridge.chainId := by
  simp only [NFTBridge.createWrapped, bind_eq_ok, require_eq_ok] at h
  obtain ⟨_, hforeign, _, -, nft, hinit, _, -, heq⟩ := h
  generalize env.create2 _ _ _ _ = wrapper at heq
  obtain ⟨rfl, rfl⟩ := Prod.mk.inj (Except.ok.inj heq)
  simp only [NFTImplementation.initializeContract, bind_eq_ok] at hinit
  obtain ⟨_, -, hnft⟩ := hinit
  obtain rfl := Except.ok.inj hnft
  refine ⟨⟨fun a => ?_, fun a nft₁ hnft₁ => ?_⟩, rfl, rfl⟩
  · by_cases ha : a = wrapper
    · subst ha
      simp [World.setNft, setWrappedAsset]
    · simpa [World.setNft, setWrappedAsset, Function.update_of_ne ha] using hw.isSome_iff a
  · rcases update_eq_some hnft₁ with ⟨-, rfl⟩ | hold
    · exact ⟨rfl, rfl, hforeign⟩
    · exact hw.nft a nft₁ hold

theorem Wrapped.wrappedAssetOf {transfer : Transfer} {token : Address} (hw : Wrapped w)
    (h : NFTBridge.wrappedAssetOf env w transfer = .ok (w', token)) : Wrapped w' := by
  unfold NFTBridge.wrappedAssetOf at h
  split at h
  · exact (hw.createWrapped h).1
  · obtain ⟨rfl, -⟩ := Prod.mk.inj (Except.ok.inj h)
    exact hw

theorem Wrapped.mintWrapped {transfer : Transfer} (hw : Wrapped w)
    (h : NFTBridge.mintWrapped env w transfer = .ok w') : Wrapped w' := by
  simp only [NFTBridge.mintWrapped, bind_eq_ok, nftAt_eq_ok] at h
  obtain ⟨⟨w₁, wrapped⟩, hasset, nft, hnft, nft', hmint, heq⟩ := h
  obtain rfl := Except.ok.inj heq
  have hset := (hw.wrappedAssetOf hasset).setNft hnft (NFTImplementation.mint_eq_ok hmint).1
  refine hset.frame ?_ rfl
  simp only [World.setNft]
  split <;> exact ⟨rfl, rfl, rfl⟩

theorem Wrapped.completeTransfer {vm : VM} {valid : Bool} {reason : String} {received : Revert Unit}
    (hw : Wrapped w) (h : NFTBridge.completeTransfer env w vm valid reason received = .ok w') :
    Wrapped w' := by
  simp only [NFTBridge.completeTransfer, bind_eq_ok] at h
  obtain ⟨_, -, _, -, transfer, -, _, -, _, -, h⟩ := h
  have hw' : Wrapped { w with bridge := setTransferCompleted w.bridge vm.hash } :=
    hw.frame ⟨rfl, rfl, rfl⟩ rfl
  split at h
  · exact hw'.callSafeTransferFrom h
  · exact hw'.mintWrapped h

theorem registerChain_frame {s s' : State} {vm : VM} {valid : Bool} {reason : String}
    (h : registerChain s vm valid reason = .ok s') :
    s'.self = s.self ∧ s'.chainId = s.chainId ∧ s'.isWrappedAsset = s.isWrappedAsset := by
  simp only [registerChain, bind_eq_ok] at h
  obtain ⟨_, -, _, -, _, -, heq⟩ := h
  obtain rfl := Except.ok.inj heq
  exact ⟨rfl, rfl, rfl⟩

theorem Wrapped.transferNFT {sender token : Address} {tokenID recipient : Word}
    {recipientChain nonce value sequence : Nat} (hw : Wrapped w)
    (h : NFTBridge.transferNFT env w sender token tokenID recipientChain recipient nonce value
      = .ok (w', sequence)) : Wrapped w' := by
  obtain ⟨hsame, ⟨-, nft, nft', hnft, hburn, hnfts⟩ | ⟨-, hnfts, -⟩⟩ := transferNFT_cases hw h
  · exact (hw.setNft hnft (NFTImplementation.burn_eq_ok hburn).1).frame
      ⟨hsame.self, hsame.chainId, hsame.isWrappedAsset⟩ hnfts
  · exact hw.frame hsame hnfts

/-- **Step.** Every transaction keeps the invariant. -/
theorem Wrapped.step {input : Input ν} (hw : Wrapped w)
    (h : NFTBridge.step env w input = some w') : Wrapped w' := by
  have hok : ∀ {α : Type} {r : Revert α} {a : α}, r.toOption = some a → r = .ok a := by
    intro α r a hr
    cases r <;> simp_all [Except.toOption]
  cases input with
  | transferNFT sender token tokenID recipientChain recipient nonce value =>
    have hrun := hok h
    cases htransfer : NFTBridge.transferNFT env w sender token tokenID recipientChain recipient nonce
        value with
    | error reason =>
      rw [htransfer] at hrun
      cases hrun
    | ok result =>
      rw [htransfer] at hrun
      obtain rfl := Except.ok.inj hrun
      exact hw.transferNFT htransfer
  | completeTransfer vm valid reason received => exact hw.completeTransfer (hok h)
  | registerChain vm valid reason =>
    have hrun := hok h
    cases hregister : NFTBridge.registerChain w.bridge vm valid reason with
    | error reason =>
      rw [hregister] at hrun
      cases hrun
    | ok bridge =>
      rw [hregister] at hrun
      obtain rfl := Except.ok.inj hrun
      obtain ⟨hself, hchain, hwrapped⟩ := registerChain_frame hregister
      exact hw.frame ⟨hself, hchain, hwrapped⟩ rfl
  | nft sender token call =>
    simp only [NFTBridge.step] at h
    split at h
    · cases h
    · have hrun := hok h
      cases hnft : nftAt w token with
      | error reason =>
        rw [hnft] at hrun
        cases hrun
      | ok nft =>
        rw [hnft] at hrun
        cases hcall : call.run nft sender with
        | error reason =>
          simp [Except.bind, hcall, Except.map] at hrun
        | ok nft' =>
          obtain rfl : w.setNft token nft' = w' := by
            simpa [Except.bind, hcall, Except.map] using hrun
          have hnft' := nftAt_eq_ok.mp hnft
          exact hw.setNft hnft' (NFTImplementation.Call.run_sameIdentity hcall
            (hw.nft token nft hnft').1)
  | rest e =>
    obtain rfl := Option.some.inj h
    exact hw.frame ⟨rfl, rfl, rfl⟩ rfl

/-- **Run.** Every reachable world has it. -/
theorem Reachable.wrapped (h : Reachable env w) : Wrapped w := by
  obtain ⟨w₀, hfresh, hrun⟩ := h
  exact hrun.invariant (fun _ _ _ hw _ hstep => hw.step hstep) (.of_fresh hfresh)

/-! ## Only the holder? -/

/-- What the sender of a successful `transferNFT` from `w` to `w'` should have been: the owner of the
wrapped token, or somebody from whom the native contract let the bridge move it; and every wrapped
token of somebody else stays where it is. -/
def HolderOnly (env : Environment ν) (w w' : World ν) (sender token : Address) (tokenID : Word) :
    Prop :=
  (if w.bridge.isWrappedAsset token then
      ∃ nft, w.nfts token = some nft ∧ nft.owners tokenID = sender
    else ∃ e, env.safeTransferFrom w.env token w.bridge.self sender w.bridge.self tokenID = .ok e) ∧
  ∀ a nft id, w.nfts a = some nft → nft.owners id ≠ zeroAddress → nft.owners id ≠ sender →
    ∃ nft', w'.nfts a = some nft' ∧ nft'.owners id = nft.owners id

/-- Of a wrapped token, the sender is the owner. -/
theorem HolderOnly.owner {sender token : Address} {tokenID : Word}
    (h : HolderOnly env w w' sender token tokenID) (hwrapped : w.bridge.isWrappedAsset token = true) :
    ∃ nft, w.nfts token = some nft ∧ nft.owners tokenID = sender := by
  simpa [hwrapped] using h.1

/-- **Only the holder can bridge an NFT out, except a wrapped one.** A successful `transferNFT` from a
reachable world respects the holder exactly when the token is native or the sender owns it. -/
theorem transferNFT_holderOnly_iff (hreach : Reachable env w) {sender token : Address}
    {tokenID recipient : Word} {recipientChain nonce value sequence : Nat}
    (h : transferNFT env w sender token tokenID recipientChain recipient nonce value
      = .ok (w', sequence)) :
    HolderOnly env w w' sender token tokenID ↔
      (w.bridge.isWrappedAsset token = true →
        ∃ nft, w.nfts token = some nft ∧ nft.owners tokenID = sender) := by
  rcases (transferNFT_cases hreach.wrapped h).2 with
    ⟨hwrapped, nft, nft', hnft, hburn, hnfts⟩ | ⟨hnative, hnfts, hmoved⟩
  · constructor
    · exact fun hholder => hholder.owner
    · intro howner
      refine ⟨by simpa [hwrapped] using howner hwrapped, fun a nft₁ id hnft₁ _ hother => ?_⟩
      obtain ⟨-, -, -, howners⟩ := NFTImplementation.burn_eq_ok hburn
      by_cases ha : a = token
      · subst ha
        obtain rfl : nft = nft₁ := Option.some.inj (hnft.symm.trans hnft₁)
        obtain ⟨nft₂, hnft₂, hsender⟩ := howner hwrapped
        obtain rfl : nft = nft₂ := Option.some.inj (hnft.symm.trans hnft₂)
        have hid : id ≠ tokenID := by
          rintro rfl
          exact hother hsender
        refine ⟨nft', by rw [hnfts, Function.update_self], ?_⟩
        rw [howners, Function.update_of_ne hid]
      · exact ⟨nft₁, by rw [hnfts, Function.update_of_ne ha, hnft₁], rfl⟩
  · constructor
    · intro _ hwrapped
      rw [hnative] at hwrapped
      cases hwrapped
    · intro _
      exact ⟨by simpa [hnative] using hmoved, fun a nft₁ id hnft₁ _ _ =>
        ⟨nft₁, by rw [hnfts, hnft₁], rfl⟩⟩

end Steps

end Bridge

/-! ## Inputs -/

theorem sampleAddress_length (b : UInt8) : (List.replicate 20 b).length = 20 := List.length_replicate

/-- An address that repeats one byte. -/
def sampleAddress (b : UInt8) : Address := ⟨List.replicate 20 b, sampleAddress_length b⟩

theorem sampleWord_length (b : UInt8) : (List.replicate 32 b).length = 32 := List.length_replicate

/-- A word that repeats one byte. -/
def sampleWord (b : UInt8) : Word := ⟨List.replicate 32 b, sampleWord_length b⟩

def alice : Address := sampleAddress 0xa1
def mallory : Address := sampleAddress 0x66

/-- A chain on which there is nothing but the bridge and a core contract that takes every message. -/
def sampleEnvironment : Environment Unit where
  hasCode := fun _ _ => false
  supportsInterface := fun _ _ _ => .error ""
  symbol := fun _ _ => .error ""
  name := fun _ _ => .error ""
  tokenURI := fun _ _ _ => .error ""
  safeTransferFrom := fun _ _ _ _ _ _ => .error ""
  publishMessage := fun _ _ _ _ _ => .ok (0, ())
  create2 := fun _ _ _ _ => sampleAddress 0xcc
  memory := zeroWord

/-- The bridge of chain 2, as deployed. -/
def freshWorld : World Unit where
  bridge := {
    self := sampleAddress 0xbb
    chainId := 2
    governanceChainId := 1
    governanceContract := sampleWord 0x04
    consumedGovernanceActions := fun _ => false
    completedTransfers := fun _ => false
    wrappedAssets := fun _ _ => zeroAddress
    isWrappedAsset := fun _ => false
    bridgeImplementations := fun _ => zeroWord
    splCache := fun _ => { name := zeroWord, symbol := zeroWord } }
  nfts := fun _ => none
  env := ()

/-- A message of chain `emitterChainId`. -/
def sampleVM (emitterChainId : Nat) (emitterAddress payload : List UInt8) (sequence : Nat) : VM where
  version := 1
  timestamp := 0
  nonce := 0
  emitterChainId := emitterChainId
  emitterAddress := emitterAddress
  sequence := sequence
  consistencyLevel := 15
  payload := payload
  guardianSetIndex := 0
  signatures := []
  hash := [UInt8.ofNat sequence]

/-- Governance registers the NFT bridge of chain 4. -/
def registerVM : VM :=
  sampleVM 1 (sampleWord 0x04).val
    (module ++ [0x01, 0x00, 0x02, 0x00, 0x04] ++ (sampleWord 0x05).val) 0

/-- That bridge sends the NFT `0x0707…` of its chain to `alice`. -/
def transferVM : VM :=
  sampleVM 4 (sampleWord 0x05).val
    ([0x01] ++ (sampleWord 0x09).val ++ [0x00, 0x04] ++ zeroWord.val ++ zeroWord.val ++
      (sampleWord 0x07).val ++ [0x00] ++ alice.toWord.val ++ [0x00, 0x02]) 1

/-- The world after both messages: `alice` owns the wrapped NFT. -/
def sampleWorld : World Unit :=
  attempts (step sampleEnvironment) freshWorld
    [.registerChain registerVM true "", .completeTransfer transferVM true "" (.ok ())]

theorem sampleWorld_reachable : Reachable sampleEnvironment sampleWorld :=
  ⟨freshWorld, ⟨fun _ => rfl, fun _ => rfl⟩,
    run_attempts (P := fun _ => True) _ _ fun _ _ => trivial⟩

/-- The owner of a wrapped NFT. -/
def ownerOfWrapped {ν : Type} (w : World ν) (token : Address) (tokenID : Word) : Option Address :=
  (w.nfts token).map fun nft => nft.owners tokenID

theorem sampleWorld_owner :
    sampleWorld.bridge.isWrappedAsset (sampleAddress 0xcc) = true ∧
    ownerOfWrapped sampleWorld (sampleAddress 0xcc) (sampleWord 0x07) = some alice := by
  decide +kernel

/-- `alice` bridges her own NFT out. -/
theorem transferNFT_alice :
    ∃ w' sequence, transferNFT sampleEnvironment sampleWorld alice (sampleAddress 0xcc)
        (sampleWord 0x07) 4 (sampleWord 0x08) 0 0 = .ok (w', sequence) ∧
      HolderOnly sampleEnvironment sampleWorld w' alice (sampleAddress 0xcc) (sampleWord 0x07) := by
  have hok : (transferNFT sampleEnvironment sampleWorld alice (sampleAddress 0xcc)
      (sampleWord 0x07) 4 (sampleWord 0x08) 0 0).toBool = true := by decide +kernel
  obtain ⟨-, howner⟩ := sampleWorld_owner
  cases h : transferNFT sampleEnvironment sampleWorld alice (sampleAddress 0xcc) (sampleWord 0x07) 4
      (sampleWord 0x08) 0 0 with
  | error reason =>
    rw [h] at hok
    cases hok
  | ok result =>
    exact ⟨result.1, result.2, rfl, (transferNFT_holderOnly_iff sampleWorld_reachable h).mpr fun _ =>
      Option.map_eq_some_iff.mp howner⟩

/-- **Anyone can bridge a wrapped NFT out.** `mallory` sends `alice`'s NFT to a recipient of his own
choice: the call succeeds and burns it. -/
theorem transferNFT_mallory :
    Reachable sampleEnvironment sampleWorld ∧
    ownerOfWrapped sampleWorld (sampleAddress 0xcc) (sampleWord 0x07) = some alice ∧
    ∃ w' sequence, transferNFT sampleEnvironment sampleWorld mallory (sampleAddress 0xcc)
        (sampleWord 0x07) 4 (sampleWord 0x08) 0 0 = .ok (w', sequence) ∧
      ownerOfWrapped w' (sampleAddress 0xcc) (sampleWord 0x07) = some zeroAddress ∧
      ¬HolderOnly sampleEnvironment sampleWorld w' mallory (sampleAddress 0xcc)
        (sampleWord 0x07) := by
  have hburned : (transferNFT sampleEnvironment sampleWorld mallory (sampleAddress 0xcc)
      (sampleWord 0x07) 4 (sampleWord 0x08) 0 0).toOption.bind (fun result =>
        ownerOfWrapped result.1 (sampleAddress 0xcc) (sampleWord 0x07)) = some zeroAddress := by
    decide +kernel
  obtain ⟨hwrapped, howner⟩ := sampleWorld_owner
  refine ⟨sampleWorld_reachable, howner, ?_⟩
  cases h : transferNFT sampleEnvironment sampleWorld mallory (sampleAddress 0xcc) (sampleWord 0x07) 4
      (sampleWord 0x08) 0 0 with
  | error reason =>
    rw [h] at hburned
    cases hburned
  | ok result =>
    rw [h] at hburned
    refine ⟨result.1, result.2, rfl, hburned, fun hholder => ?_⟩
    obtain ⟨nft, hnft, hmallory⟩ := hholder.owner hwrapped
    rw [ownerOfWrapped, hnft, Option.map_some, hmallory] at howner
    exact absurd howner (by decide)

end Wormhole.Ethereum.NFTBridge
