/-
# Wormhole.Ethereum.NFTImplementation — the wrapped NFT contract.

The ERC-721 contract the NFT bridge deploys for each foreign collection (`NFTImplementation.sol`).
Every function takes the caller (`_msgSender()`) and the contract's storage.  Minting and burning are
reserved to the owner, the bridge; `burn` does not ask whose token it is.
-/
import Mathlib
import Wormhole.Lib.Failing
import Wormhole.Ethereum.Evm

namespace Wormhole.Ethereum.NFTImplementation

open Wormhole.Lib.Failing

/-! ## Storage -/

/-- `NFTStorage.State`. -/
structure State where
  name : List UInt8
  symbol : List UInt8
  /-- Mapping from token ID to owner address -/
  owners : Word → Address
  /-- Mapping owner address to token count -/
  balances : Address → Nat
  /-- Mapping from token ID to approved address -/
  tokenApprovals : Word → Address
  /-- Mapping from token ID to URI -/
  tokenURIs : Word → List UInt8
  /-- Mapping from owner to operator approvals -/
  operatorApprovals : Address → Address → Bool
  owner : Address
  initialized : Bool
  chainId : Nat
  nativeContract : Word

/-- A freshly deployed proxy. -/
def State.empty : State where
  name := []
  symbol := []
  owners := fun _ => zeroAddress
  balances := fun _ => 0
  tokenApprovals := fun _ => zeroAddress
  tokenURIs := fun _ => []
  operatorApprovals := fun _ _ => false
  owner := zeroAddress
  initialized := false
  chainId := 0
  nativeContract := zeroWord

/-! ## Functions -/

/-- `initialize`, once. -/
def initializeContract (s : State) (name symbol : List UInt8) (owner : Address) (chainId : Nat)
    (nativeContract : Word) : Revert State := do
  require (s.initialized = false) "Already initialized"
  return { s with initialized := true, name, symbol, owner, chainId, nativeContract }

def ownerOf (s : State) (tokenId : Word) : Revert Address := do
  require (s.owners tokenId ≠ zeroAddress) "ERC721: owner query for nonexistent token"
  return s.owners tokenId

def tokenURI (s : State) (tokenId : Word) : Revert (List UInt8) := do
  require (s.owners tokenId ≠ zeroAddress) "ERC721Metadata: URI query for nonexistent token"
  return s.tokenURIs tokenId

/-- `_approve`; its event reads the owner, who must exist. -/
def setApproval (s : State) (recipient : Address) (tokenId : Word) : Revert State := do
  let _ ← ownerOf s tokenId
  return { s with tokenApprovals := Function.update s.tokenApprovals tokenId recipient }

def approve (s : State) (sender recipient : Address) (tokenId : Word) : Revert State := do
  let owner ← ownerOf s tokenId
  require (recipient ≠ owner) "ERC721: approval to current owner"
  require (sender = owner ∨ s.operatorApprovals owner sender = true)
    "ERC721: approve caller is not owner nor approved for all"
  setApproval s recipient tokenId

def setApprovalForAll (s : State) (sender operator : Address) (approved : Bool) : Revert State := do
  require (operator ≠ sender) "ERC721: approve to caller"
  return { s with
    operatorApprovals := Function.update s.operatorApprovals sender
      (Function.update (s.operatorApprovals sender) operator approved) }

/-- `_isApprovedOrOwner`. -/
def isApprovedOrOwner (s : State) (spender : Address) (tokenId : Word) : Revert Bool := do
  require (s.owners tokenId ≠ zeroAddress) "ERC721: operator query for nonexistent token"
  let owner := s.owners tokenId
  return spender = owner ∨ s.tokenApprovals tokenId = spender ∨
    s.operatorApprovals owner spender = true

/-- `_state.balances[owner] -= 1`. -/
def decBalance (s : State) (owner : Address) : Revert State := do
  let balance ← subUint (s.balances owner) 1
  return { s with balances := Function.update s.balances owner balance }

/-- `_state.balances[to] += 1`. -/
def incBalance (s : State) (recipient : Address) : Revert State :=
  if s.balances recipient + 1 < 2 ^ 256 then
    .ok { s with balances := Function.update s.balances recipient (s.balances recipient + 1) }
  else .error arithmeticPanic

/-- `_transfer`. -/
def transfer (s : State) (source recipient : Address) (tokenId : Word) : Revert State := do
  let owner ← ownerOf s tokenId
  require (owner = source) "ERC721: transfer of token that is not own"
  require (recipient ≠ zeroAddress) "ERC721: transfer to the zero address"
  -- Clear approvals from the previous owner
  let s ← setApproval s zeroAddress tokenId
  let s ← decBalance s source
  let s ← incBalance s recipient
  return { s with owners := Function.update s.owners tokenId recipient }

def transferFrom (s : State) (sender source recipient : Address) (tokenId : Word) : Revert State := do
  let approved ← isApprovedOrOwner s sender tokenId
  require (approved = true) "ERC721: transfer caller is not owner nor approved"
  transfer s source recipient tokenId

/-- `safeTransferFrom`; `received` is the recipient's answer to `onERC721Received`. -/
def safeTransferFrom (s : State) (sender source recipient : Address) (tokenId : Word)
    (received : Revert Unit) : Revert State := do
  let s ← transferFrom s sender source recipient tokenId
  received
  return s

/-- `mint`, for the owner only. -/
def mint (s : State) (sender recipient : Address) (tokenId : Word) (uri : List UInt8) : Revert State := do
  require (s.owner = sender) "caller is not the owner"
  require (recipient ≠ zeroAddress) "ERC721: mint to the zero address"
  require (s.owners tokenId = zeroAddress) "ERC721: token already minted"
  let s ← incBalance s recipient
  return { s with
    owners := Function.update s.owners tokenId recipient
    tokenURIs := Function.update s.tokenURIs tokenId uri }

/-- `burn`, for the owner only. -/
def burn (s : State) (sender : Address) (tokenId : Word) : Revert State := do
  require (s.owner = sender) "caller is not the owner"
  let owner ← ownerOf s tokenId
  -- Clear approvals
  let s ← setApproval s zeroAddress tokenId
  let s ← decBalance s owner
  return { s with owners := Function.update s.owners tokenId zeroAddress }

/-- The calls anyone can make. -/
inductive Call where
  | initializeContract (name symbol : List UInt8) (owner : Address) (chainId : Nat) (nativeContract : Word)
  | approve (recipient : Address) (tokenId : Word)
  | setApprovalForAll (operator : Address) (approved : Bool)
  | transferFrom (source recipient : Address) (tokenId : Word)
  | safeTransferFrom (source recipient : Address) (tokenId : Word) (received : Revert Unit)
  | mint (recipient : Address) (tokenId : Word) (uri : List UInt8)
  | burn (tokenId : Word)

def Call.run (s : State) (sender : Address) : Call → Revert State
  | .initializeContract name symbol owner chainId nativeContract =>
    NFTImplementation.initializeContract s name symbol owner chainId nativeContract
  | .approve recipient tokenId => NFTImplementation.approve s sender recipient tokenId
  | .setApprovalForAll operator approved =>
    NFTImplementation.setApprovalForAll s sender operator approved
  | .transferFrom source recipient tokenId => NFTImplementation.transferFrom s sender source recipient tokenId
  | .safeTransferFrom source recipient tokenId received =>
    NFTImplementation.safeTransferFrom s sender source recipient tokenId received
  | .mint recipient tokenId uri => NFTImplementation.mint s sender recipient tokenId uri
  | .burn tokenId => NFTImplementation.burn s sender tokenId

/-! ## What the calls leave unchanged -/

/-- The identity of a wrapped collection: fixed once initialised. -/
structure SameIdentity (s t : State) : Prop where
  initialized : t.initialized = s.initialized
  owner : t.owner = s.owner
  chainId : t.chainId = s.chainId
  nativeContract : t.nativeContract = s.nativeContract

namespace SameIdentity

variable {s t u : State}

theorem trans (h : SameIdentity s t) (h' : SameIdentity t u) : SameIdentity s u :=
  ⟨h'.initialized.trans h.initialized, h'.owner.trans h.owner, h'.chainId.trans h.chainId,
    h'.nativeContract.trans h.nativeContract⟩

end SameIdentity

section Calls

variable {s t : State} {sender recipient source : Address} {tokenId : Word}

theorem ownerOf_eq_ok {owner : Address} :
    ownerOf s tokenId = .ok owner ↔ s.owners tokenId ≠ zeroAddress ∧ s.owners tokenId = owner := by
  simp [ownerOf, bind_eq_ok, pure, Except.pure]

theorem setApproval_eq_ok (h : setApproval s recipient tokenId = .ok t) :
    SameIdentity s t ∧ t.owners = s.owners := by
  obtain ⟨_, -, heq⟩ := bind_eq_ok.mp h
  obtain rfl := Except.ok.inj heq
  exact ⟨⟨rfl, rfl, rfl, rfl⟩, rfl⟩

theorem decBalance_eq_ok (h : decBalance s source = .ok t) :
    SameIdentity s t ∧ t.owners = s.owners := by
  obtain ⟨_, -, heq⟩ := bind_eq_ok.mp h
  obtain rfl := Except.ok.inj heq
  exact ⟨⟨rfl, rfl, rfl, rfl⟩, rfl⟩

theorem incBalance_eq_ok (h : incBalance s recipient = .ok t) :
    SameIdentity s t ∧ t.owners = s.owners := by
  unfold incBalance at h
  split at h
  · obtain rfl := Except.ok.inj h
    exact ⟨⟨rfl, rfl, rfl, rfl⟩, rfl⟩
  · cases h

theorem transfer_eq_ok (h : transfer s source recipient tokenId = .ok t) :
    SameIdentity s t ∧ s.owners tokenId = source ∧
      t.owners = Function.update s.owners tokenId recipient := by
  simp only [transfer, bind_eq_ok, require_eq_ok, ownerOf_eq_ok] at h
  obtain ⟨_, ⟨-, rfl⟩, _, hsource, _, -, s₁, h₁, s₂, h₂, s₃, h₃, heq⟩ := h
  obtain ⟨hid₁, how₁⟩ := setApproval_eq_ok h₁
  obtain ⟨hid₂, how₂⟩ := decBalance_eq_ok h₂
  obtain ⟨hid₃, how₃⟩ := incBalance_eq_ok h₃
  obtain rfl := Except.ok.inj heq
  refine ⟨(hid₁.trans hid₂).trans (hid₃.trans ⟨rfl, rfl, rfl, rfl⟩), hsource, ?_⟩
  show Function.update s₃.owners tokenId recipient = _
  rw [how₃, how₂, how₁]

/-- What a mint does. -/
theorem mint_eq_ok {uri : List UInt8} (h : mint s sender recipient tokenId uri = .ok t) :
    SameIdentity s t ∧ s.owner = sender ∧ s.owners tokenId = zeroAddress ∧
      t.owners = Function.update s.owners tokenId recipient := by
  simp only [mint, bind_eq_ok, require_eq_ok] at h
  obtain ⟨_, howner, _, -, _, hfresh, s₁, h₁, heq⟩ := h
  obtain ⟨hid₁, how₁⟩ := incBalance_eq_ok h₁
  obtain rfl := Except.ok.inj heq
  refine ⟨hid₁.trans ⟨rfl, rfl, rfl, rfl⟩, howner, hfresh, ?_⟩
  show Function.update s₁.owners tokenId recipient = _
  rw [how₁]

/-- **What a burn does.** It asks who calls, and nothing about the owner of the token. -/
theorem burn_eq_ok (h : burn s sender tokenId = .ok t) :
    SameIdentity s t ∧ s.owner = sender ∧ s.owners tokenId ≠ zeroAddress ∧
      t.owners = Function.update s.owners tokenId zeroAddress := by
  simp only [burn, bind_eq_ok, require_eq_ok, ownerOf_eq_ok] at h
  obtain ⟨_, howner, _, ⟨hexists, rfl⟩, s₁, h₁, s₂, h₂, heq⟩ := h
  obtain ⟨hid₁, how₁⟩ := setApproval_eq_ok h₁
  obtain ⟨hid₂, how₂⟩ := decBalance_eq_ok h₂
  obtain rfl := Except.ok.inj heq
  refine ⟨hid₁.trans (hid₂.trans ⟨rfl, rfl, rfl, rfl⟩), howner, hexists, ?_⟩
  show Function.update s₂.owners tokenId zeroAddress = _
  rw [how₂, how₁]

/-- **Frame.** No call changes the identity of an initialised contract. -/
theorem Call.run_sameIdentity {c : Call} (h : c.run s sender = .ok t)
    (hinit : s.initialized = true) : SameIdentity s t := by
  cases c with
  | initializeContract name symbol owner chainId nativeContract =>
    obtain ⟨_, hreq, -⟩ := bind_eq_ok.mp h
    rw [require_eq_ok, hinit] at hreq
    cases hreq
  | approve recipient tokenId =>
    simp only [Call.run, NFTImplementation.approve, bind_eq_ok] at h
    obtain ⟨_, -, _, -, _, -, hset⟩ := h
    exact (setApproval_eq_ok hset).1
  | setApprovalForAll operator approved =>
    obtain ⟨_, -, heq⟩ := bind_eq_ok.mp h
    obtain rfl := Except.ok.inj heq
    exact ⟨rfl, rfl, rfl, rfl⟩
  | transferFrom source recipient tokenId =>
    simp only [Call.run, NFTImplementation.transferFrom, bind_eq_ok] at h
    obtain ⟨_, -, _, -, htransfer⟩ := h
    exact (transfer_eq_ok htransfer).1
  | safeTransferFrom source recipient tokenId received =>
    simp only [Call.run, NFTImplementation.safeTransferFrom, NFTImplementation.transferFrom,
      bind_eq_ok] at h
    obtain ⟨s', ⟨_, -, _, -, htransfer⟩, _, -, heq⟩ := h
    obtain rfl := Except.ok.inj heq
    exact (transfer_eq_ok htransfer).1
  | mint recipient tokenId uri => exact (mint_eq_ok h).1
  | burn tokenId => exact (burn_eq_ok h).1

end Calls

end Wormhole.Ethereum.NFTImplementation
