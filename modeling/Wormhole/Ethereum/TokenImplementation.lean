/-
# Wormhole.Ethereum.TokenImplementation — the wrapped token contract.

The ERC-20 contract the token bridge deploys for each foreign token (`TokenImplementation.sol`).  Every
function takes the caller (`_msgSender()`) where it asks for it, and the contract's storage.  Minting,
burning and updating the details are reserved to the owner, the bridge.
-/
import Mathlib
import Wormhole.Lib.Failing
import Wormhole.Ethereum.Evm

namespace Wormhole.Ethereum.TokenImplementation

/-! ## Storage -/

/-- `TokenStorage.State`. -/
structure State where
  name : List UInt8
  symbol : List UInt8
  metaLastUpdatedSequence : Nat
  totalSupply : Nat
  decimals : Nat
  balances : Address → Nat
  /-- Mapping from owner and spender to the amount the spender may move -/
  allowances : Address → Address → Nat
  owner : Address
  initialized : Bool
  chainId : Nat
  nativeContract : Word

/-- A freshly deployed proxy. -/
def State.empty : State where
  name := []
  symbol := []
  metaLastUpdatedSequence := 0
  totalSupply := 0
  decimals := 0
  balances := fun _ => 0
  allowances := fun _ _ => 0
  owner := zeroAddress
  initialized := false
  chainId := 0
  nativeContract := zeroWord

def State.setBalance (s : State) (account : Address) (balance : Nat) : State :=
  { s with balances := Function.update s.balances account balance }

/-! ## Functions -/

/-- `initialize`, once. -/
def initializeContract (s : State) (name symbol : List UInt8) (decimals sequence : Nat)
    (owner : Address) (chainId : Nat) (nativeContract : Word) : Revert State := do
  require (s.initialized = false) "Already initialized"
  return { s with
    initialized := true, name, symbol, decimals, metaLastUpdatedSequence := sequence, owner, chainId,
    nativeContract }

/-- `_transfer`; the recipient's balance is read after the sender's was written. -/
def moveTokens (s : State) (sender recipient : Address) (amount : Nat) : Revert State := do
  require (sender ≠ zeroAddress) "ERC20: transfer from the zero address"
  require (recipient ≠ zeroAddress) "ERC20: transfer to the zero address"
  let senderBalance := s.balances sender
  require (amount ≤ senderBalance) "ERC20: transfer amount exceeds balance"
  let s := s.setBalance sender (senderBalance - amount)
  let recipientBalance ← addUint (s.balances recipient) amount
  return s.setBalance recipient recipientBalance

/-- `_approve`. -/
def setAllowance (s : State) (owner spender : Address) (amount : Nat) : Revert State := do
  require (owner ≠ zeroAddress) "ERC20: approve from the zero address"
  require (spender ≠ zeroAddress) "ERC20: approve to the zero address"
  return { s with
    allowances := Function.update s.allowances owner
      (Function.update (s.allowances owner) spender amount) }

def transfer (s : State) (msgSender recipient : Address) (amount : Nat) : Revert State :=
  moveTokens s msgSender recipient amount

def approve (s : State) (msgSender spender : Address) (amount : Nat) : Revert State :=
  setAllowance s msgSender spender amount

def transferFrom (s : State) (msgSender sender recipient : Address) (amount : Nat) :
    Revert State := do
  let s ← moveTokens s sender recipient amount
  let currentAllowance := s.allowances sender msgSender
  require (amount ≤ currentAllowance) "ERC20: transfer amount exceeds allowance"
  setAllowance s sender msgSender (currentAllowance - amount)

def increaseAllowance (s : State) (msgSender spender : Address) (addedValue : Nat) :
    Revert State := do
  setAllowance s msgSender spender (← addUint (s.allowances msgSender spender) addedValue)

def decreaseAllowance (s : State) (msgSender spender : Address) (subtractedValue : Nat) :
    Revert State := do
  let currentAllowance := s.allowances msgSender spender
  require (subtractedValue ≤ currentAllowance) "ERC20: decreased allowance below zero"
  setAllowance s msgSender spender (currentAllowance - subtractedValue)

/-- `onlyOwner`. -/
def onlyOwner (s : State) (msgSender : Address) : Revert Unit :=
  require (s.owner = msgSender) "caller is not the owner"

def mint (s : State) (msgSender account : Address) (amount : Nat) : Revert State := do
  onlyOwner s msgSender
  require (account ≠ zeroAddress) "ERC20: mint to the zero address"
  let totalSupply ← addUint s.totalSupply amount
  let balance ← addUint (s.balances account) amount
  return { s with totalSupply }.setBalance account balance

def burn (s : State) (msgSender account : Address) (amount : Nat) : Revert State := do
  onlyOwner s msgSender
  require (account ≠ zeroAddress) "ERC20: burn from the zero address"
  let accountBalance := s.balances account
  require (amount ≤ accountBalance) "ERC20: burn amount exceeds balance"
  let totalSupply ← subUint s.totalSupply amount
  return { s with totalSupply }.setBalance account (accountBalance - amount)

def updateDetails (s : State) (msgSender : Address) (name symbol : List UInt8) (sequence : Nat) :
    Revert State := do
  onlyOwner s msgSender
  require (s.metaLastUpdatedSequence < sequence) "current metadata is up to date"
  return { s with name, symbol, metaLastUpdatedSequence := sequence }

/-! ## Calls from outside -/

/-- A call that changes the contract's storage. -/
inductive Call where
  | initializeContract (name symbol : List UInt8) (decimals sequence : Nat) (owner : Address)
      (chainId : Nat) (nativeContract : Word)
  | transfer (recipient : Address) (amount : Nat)
  | approve (spender : Address) (amount : Nat)
  | transferFrom (sender recipient : Address) (amount : Nat)
  | increaseAllowance (spender : Address) (addedValue : Nat)
  | decreaseAllowance (spender : Address) (subtractedValue : Nat)
  | mint (account : Address) (amount : Nat)
  | burn (account : Address) (amount : Nat)
  | updateDetails (name symbol : List UInt8) (sequence : Nat)

/-- The call, made by `msgSender`. -/
def Call.run (s : State) (msgSender : Address) : Call → Revert State
  | .initializeContract name symbol decimals sequence owner chainId nativeContract =>
    TokenImplementation.initializeContract s name symbol decimals sequence owner chainId nativeContract
  | .transfer recipient amount => TokenImplementation.transfer s msgSender recipient amount
  | .approve spender amount => TokenImplementation.approve s msgSender spender amount
  | .transferFrom sender recipient amount =>
    TokenImplementation.transferFrom s msgSender sender recipient amount
  | .increaseAllowance spender addedValue =>
    TokenImplementation.increaseAllowance s msgSender spender addedValue
  | .decreaseAllowance spender subtractedValue =>
    TokenImplementation.decreaseAllowance s msgSender spender subtractedValue
  | .mint account amount => TokenImplementation.mint s msgSender account amount
  | .burn account amount => TokenImplementation.burn s msgSender account amount
  | .updateDetails name symbol sequence =>
    TokenImplementation.updateDetails s msgSender name symbol sequence

/-! ## What the functions do -/

section Specs

open Wormhole.Lib.Failing

variable {s s' : State} {msgSender owner spender sender recipient account : Address} {amount : Nat}

/-- A token is initialized once, for the owner that is given. -/
theorem initializeContract_eq_ok {name symbol : List UInt8} {decimals sequence chainId : Nat}
    {nativeContract : Word}
    (h : initializeContract s name symbol decimals sequence owner chainId nativeContract = .ok s') :
    s.initialized = false ∧ s' = { s with
      initialized := true, name, symbol, decimals, metaLastUpdatedSequence := sequence, owner, chainId,
      nativeContract } := by
  obtain ⟨_, hfresh, h⟩ := bind_eq_ok.mp h
  exact ⟨require_eq_ok.mp hfresh, (Except.ok.inj h).symm⟩

/-- What is moved the sender has, and nothing but the two balances changes. -/
theorem moveTokens_eq_ok (h : moveTokens s sender recipient amount = .ok s') :
    amount ≤ s.balances sender ∧ s' = { s with
      balances := Function.update (Function.update s.balances sender (s.balances sender - amount)) recipient
        (Function.update s.balances sender (s.balances sender - amount) recipient + amount) } := by
  simp only [moveTokens, bind_eq_ok, require_eq_ok] at h
  obtain ⟨_, -, _, -, _, hle, balance, hadd, h⟩ := h
  refine ⟨hle, ?_⟩
  rw [← Except.ok.inj h, ← addUint_eq_ok hadd]
  rfl

/-- Only allowances change. -/
theorem setAllowance_eq_ok (h : setAllowance s owner spender amount = .ok s') :
    s' = { s with allowances := s'.allowances } := by
  simp only [setAllowance, bind_eq_ok] at h
  obtain ⟨_, -, _, -, h⟩ := h
  rw [← Except.ok.inj h]

/-- The spender moves what it is allowed to: balances as above, and one allowance. -/
theorem transferFrom_eq_ok (h : transferFrom s msgSender sender recipient amount = .ok s') :
    amount ≤ s.balances sender ∧ s' = { s with
      balances := Function.update (Function.update s.balances sender (s.balances sender - amount)) recipient
        (Function.update s.balances sender (s.balances sender - amount) recipient + amount)
      allowances := s'.allowances } := by
  obtain ⟨t, hmove, h⟩ := bind_eq_ok.mp h
  obtain ⟨_, -, hallow⟩ := bind_eq_ok.mp h
  obtain ⟨hle, rfl⟩ := moveTokens_eq_ok hmove
  exact ⟨hle, setAllowance_eq_ok hallow⟩

/-- The owner mints, and the supply grows with the balance. -/
theorem mint_eq_ok (h : mint s msgSender account amount = .ok s') :
    s.owner = msgSender ∧ s' = { s with
      totalSupply := s.totalSupply + amount
      balances := Function.update s.balances account (s.balances account + amount) } := by
  simp only [mint, onlyOwner, bind_eq_ok, require_eq_ok] at h
  obtain ⟨_, howner, _, -, supply, hsupply, balance, hbalance, h⟩ := h
  refine ⟨howner, ?_⟩
  rw [← Except.ok.inj h, ← addUint_eq_ok hsupply, ← addUint_eq_ok hbalance]
  rfl

/-- The owner burns what the account has, and the supply shrinks with the balance. -/
theorem burn_eq_ok (h : burn s msgSender account amount = .ok s') :
    s.owner = msgSender ∧ amount ≤ s.balances account ∧ s' = { s with
      totalSupply := s.totalSupply - amount
      balances := Function.update s.balances account (s.balances account - amount) } := by
  simp only [burn, onlyOwner, bind_eq_ok, require_eq_ok] at h
  obtain ⟨_, howner, _, -, _, hle, supply, hsupply, h⟩ := h
  refine ⟨howner, hle, ?_⟩
  unfold subUint at hsupply
  split at hsupply
  · rw [← Except.ok.inj h, ← Except.ok.inj hsupply]
    rfl
  · cases hsupply

/-- Name, symbol and sequence are replaced together. -/
theorem updateDetails_eq_ok {name symbol : List UInt8} {sequence : Nat}
    (h : updateDetails s msgSender name symbol sequence = .ok s') :
    s' = { s with name, symbol, metaLastUpdatedSequence := sequence } := by
  simp only [updateDetails, bind_eq_ok] at h
  obtain ⟨_, -, _, -, h⟩ := h
  exact (Except.ok.inj h).symm

/-! ### Constants -/

/-- What no call changes after the first one. -/
structure SameContract (s s' : State) : Prop where
  decimals : s'.decimals = s.decimals
  owner : s'.owner = s.owner
  initialized : s'.initialized = s.initialized
  chainId : s'.chainId = s.chainId
  nativeContract : s'.nativeContract = s.nativeContract

/-- A transfer leaves the contract the same, -/
theorem moveTokens_sameContract (h : moveTokens s sender recipient amount = .ok s') : SameContract s s' := by
  rw [(moveTokens_eq_ok h).2]
  exact ⟨rfl, rfl, rfl, rfl, rfl⟩

/-- and so does an approval, -/
theorem setAllowance_sameContract (h : setAllowance s owner spender amount = .ok s') : SameContract s s' := by
  rw [setAllowance_eq_ok h]
  exact ⟨rfl, rfl, rfl, rfl, rfl⟩

/-- a transfer for somebody else, -/
theorem transferFrom_sameContract (h : transferFrom s msgSender sender recipient amount = .ok s') :
    SameContract s s' := by
  rw [(transferFrom_eq_ok h).2]
  exact ⟨rfl, rfl, rfl, rfl, rfl⟩

/-- a mint, -/
theorem mint_sameContract (h : mint s msgSender account amount = .ok s') : SameContract s s' := by
  rw [(mint_eq_ok h).2]
  exact ⟨rfl, rfl, rfl, rfl, rfl⟩

/-- a burn -/
theorem burn_sameContract (h : burn s msgSender account amount = .ok s') : SameContract s s' := by
  rw [(burn_eq_ok h).2.2]
  exact ⟨rfl, rfl, rfl, rfl, rfl⟩

/-- and an update of the metadata. -/
theorem updateDetails_sameContract {name symbol : List UInt8} {sequence : Nat}
    (h : updateDetails s msgSender name symbol sequence = .ok s') : SameContract s s' := by
  rw [updateDetails_eq_ok h]
  exact ⟨rfl, rfl, rfl, rfl, rfl⟩

/-- Once a token is initialized, no call changes its owner, chain, native contract or decimals. -/
theorem Call.run_sameContract {c : Call} (hs : s.initialized = true) (h : c.run s msgSender = .ok s') :
    SameContract s s' := by
  cases c with
  | initializeContract =>
    have hfresh := (initializeContract_eq_ok h).1
    rw [hs] at hfresh
    cases hfresh
  | transfer => exact moveTokens_sameContract h
  | approve => exact setAllowance_sameContract h
  | transferFrom => exact transferFrom_sameContract h
  | increaseAllowance =>
    obtain ⟨_, -, h⟩ := bind_eq_ok.mp h
    exact setAllowance_sameContract h
  | decreaseAllowance =>
    obtain ⟨_, -, h⟩ := bind_eq_ok.mp h
    exact setAllowance_sameContract h
  | mint => exact mint_sameContract h
  | burn => exact burn_sameContract h
  | updateDetails => exact updateDetails_sameContract h

end Specs

end Wormhole.Ethereum.TokenImplementation
