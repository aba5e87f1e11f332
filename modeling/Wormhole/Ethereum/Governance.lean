/-
# Wormhole.Ethereum.Governance — the governance of the EVM core contract.

`Governance.sol`, with the payloads of `GovernanceStructs.sol` and the setters it uses.  Four entry points
take a VAA; each one verifies it against the current guardian set, parses its own payload, checks the
module and the chain, consumes the hash and acts.  Over any run of them (`governed`) a hash is executed
once, the guardian sets are appended and never rewritten, and only the set being replaced gets a new
expiration time: the block time, cut to 32 bits, plus a day.

The new implementation's `initialize`, which an upgrade delegates to, and the recipient of fees are
parameters (`Environment`).
-/
import Mathlib
import Wormhole.Lib.Failing
import Wormhole.Lib.Transition
import Wormhole.Ethereum.Evm
import Wormhole.Ethereum.Messages
import Wormhole.Ethereum.Verification

namespace Wormhole.Ethereum.Governance

open Wormhole.Lib.Failing Wormhole.Lib.Transition

/-! ## Storage -/

/-- `Storage.WormholeState`, as far as governance uses it, with the implementation slot of the proxy. -/
structure State extends WormholeState where
  chainId : Nat
  governanceChainId : Nat
  governanceContract : List UInt8
  /-- Mapping of consumed governance actions -/
  consumedGovernanceActions : List UInt8 → Bool
  /-- Mapping of initialized implementations -/
  initializedImplementations : Address → Bool
  messageFee : Nat
  implementation : Address

/-- `uint32` addition. -/
def addUint32 (x y : Nat) : Revert Nat :=
  if x + y < 2 ^ 32 then .ok (x + y) else .error arithmeticPanic

def updateGuardianSetIndex (s : State) (newIndex : Nat) : State :=
  { s with guardianSetIndex := newIndex }

def expireGuardianSet (s : State) (timestamp index : Nat) : Revert State := do
  let expirationTime ← addUint32 (timestamp % 2 ^ 32) 86400
  return { s with
    guardianSets := Function.update s.guardianSets index { s.guardianSets index with expirationTime } }

def storeGuardianSet (s : State) (set : GuardianSet) (index : Nat) : State :=
  { s with guardianSets := Function.update s.guardianSets index set }

def setGovernanceActionConsumed (s : State) (hash : List UInt8) : State :=
  { s with consumedGovernanceActions := Function.update s.consumedGovernanceActions hash true }

def setMessageFee (s : State) (newFee : Nat) : State := { s with messageFee := newFee }

/-- Storage before the proxy is set up. -/
def State.zero : State where
  guardianSets := fun _ => { keys := [], expirationTime := 0 }
  guardianSetIndex := 0
  chainId := 0
  governanceChainId := 0
  governanceContract := List.replicate 32 0x00
  consumedGovernanceActions := fun _ => false
  initializedImplementations := fun _ => false
  messageFee := 0
  implementation := zeroAddress

/-- `Setup.setup`, which the constructor of the proxy calls. -/
def setup (implementation : Address) (initialGuardians : List Address) (chainId governanceChainId : Nat)
    (governanceContract : List UInt8) : Revert State := do
  require (0 < initialGuardians.length) "no guardians specified"
  let s := storeGuardianSet State.zero { keys := initialGuardians, expirationTime := 0 } 0
  return { s with chainId, governanceChainId, governanceContract, implementation }

/-! ## The payloads -/

/-- `GovernanceStructs.ContractUpgrade`. -/
structure ContractUpgrade where
  module' : List UInt8
  chain : Nat
  newContract : Address

/-- `GovernanceStructs.GuardianSetUpgrade`. -/
structure GuardianSetUpgrade where
  module' : List UInt8
  chain : Nat
  newGuardianSet : GuardianSet
  newGuardianSetIndex : Nat

/-- `GovernanceStructs.SetMessageFee`. -/
structure SetMessageFee where
  module' : List UInt8
  chain : Nat
  messageFee : Nat

/-- `GovernanceStructs.TransferFees`. -/
structure TransferFees where
  module' : List UInt8
  chain : Nat
  amount : Nat
  recipient : Word

def toAddress (bs : List UInt8) (start : Nat) : Revert Address :=
  match readBytes "toAddress_outOfBounds" bs start 20 with
  | .error reason => .error reason
  | .ok addr => if h : addr.length = 20 then .ok ⟨addr, h⟩ else .error "toAddress_outOfBounds"

def parseContractUpgrade (encodedUpgrade : List UInt8) : Revert ContractUpgrade := do
  let module' ← toBytes32 encodedUpgrade 0
  let action ← toUint8 encodedUpgrade 32
  require (action = 1) "invalid ContractUpgrade"
  let chain ← toUint16 encodedUpgrade 33
  let newContract ← toWord "toBytes32_outOfBounds" encodedUpgrade 35
  require (encodedUpgrade.length = 67) "invalid ContractUpgrade"
  return { module', chain, newContract := newContract.toAddress }

/-- The loop over the keys: `n` of them from `index` on. -/
def parseKeys (encodedUpgrade : List UInt8) : Nat → Nat → Revert (List Address)
  | 0, _ => .ok []
  | n + 1, index => do
    let key ← toAddress encodedUpgrade index
    return key :: (← parseKeys encodedUpgrade n (index + 20))

def parseGuardianSetUpgrade (encodedUpgrade : List UInt8) : Revert GuardianSetUpgrade := do
  let module' ← toBytes32 encodedUpgrade 0
  let action ← toUint8 encodedUpgrade 32
  require (action = 2) "invalid GuardianSetUpgrade"
  let chain ← toUint16 encodedUpgrade 33
  let newGuardianSetIndex ← toUint32 encodedUpgrade 35
  let guardianLength ← toUint8 encodedUpgrade 39
  let keys ← parseKeys encodedUpgrade guardianLength 40
  require (encodedUpgrade.length = 40 + 20 * guardianLength) "invalid GuardianSetUpgrade"
  return { module', chain, newGuardianSet := { keys, expirationTime := 0 }, newGuardianSetIndex }

def parseSetMessageFee (encodedSetMessageFee : List UInt8) : Revert SetMessageFee := do
  let module' ← toBytes32 encodedSetMessageFee 0
  let action ← toUint8 encodedSetMessageFee 32
  require (action = 3) "invalid SetMessageFee"
  let chain ← toUint16 encodedSetMessageFee 33
  let messageFee ← toUint "toUint256_outOfBounds" 32 encodedSetMessageFee 35
  require (encodedSetMessageFee.length = 67) "invalid SetMessageFee"
  return { module', chain, messageFee }

def parseTransferFees (encodedTransferFees : List UInt8) : Revert TransferFees := do
  let module' ← toBytes32 encodedTransferFees 0
  let action ← toUint8 encodedTransferFees 32
  require (action = 4) "invalid TransferFees"
  let chain ← toUint16 encodedTransferFees 33
  let amount ← toUint "toUint256_outOfBounds" 32 encodedTransferFees 35
  let recipient ← toWord "toBytes32_outOfBounds" encodedTransferFees 67
  require (encodedTransferFees.length = 99) "invalid TransferFees"
  return { module', chain, amount, recipient }

/-! ## The entry points -/

/-- "Core" (left padded) -/
def coreModule : List UInt8 := List.replicate 28 0x00 ++ [0x43, 0x6f, 0x72, 0x65]

/-- The rest of the chain, in state `ν`. -/
structure Environment (ν : Type) where
  keccak256 : List UInt8 → List UInt8
  ecrecover : Ecrecover
  hasCode : ν → Address → Bool
  /-- `newImplementation.delegatecall(abi.encodeWithSignature("initialize()"))` -/
  initializeImplementation : ν → Address → State → Revert State
  /-- `recipient.transfer(amount)` -/
  sendEther : ν → Address → Nat → Revert Unit

section

variable {ν : Type} (env : Environment ν)

def verifyGovernanceVM (s : State) (timestamp : Nat) (vm : VM) : Revert (Bool × String) := do
  -- validate vm
  let (isValid, reason) ← verifyVM env.ecrecover s.toWormholeState timestamp vm
  if isValid = false then return (false, reason)
  -- only current guardianset can sign governance packets
  else if vm.guardianSetIndex ≠ s.guardianSetIndex then
    return (false, "not signed by current guardian set")
  -- verify source
  else if vm.emitterChainId ≠ s.governanceChainId then return (false, "wrong governance chain")
  else if vm.emitterAddress ≠ s.governanceContract then return (false, "wrong governance contract")
  -- prevent re-entry
  else if s.consumedGovernanceActions vm.hash then
    return (false, "governance action already consumed")
  else return (true, "")

/-- What the four entry points share: `parse` and `check` are for the payload, `act` follows when the
hash has been consumed. -/
def submit {α : Type} (parse : List UInt8 → Revert α) (check : State → α → Revert Unit)
    (act : State → α → Revert State) (s : State) (timestamp : Nat) (_vm : List UInt8) :
    Revert State := do
  let vm ← parseVM env.keccak256 _vm
  let (isValid, reason) ← verifyGovernanceVM env s timestamp vm
  require (isValid = true) reason
  let upgrade ← parse vm.payload
  check s upgrade
  act (setGovernanceActionConsumed s vm.hash) upgrade

/-- `ERC1967Upgrade._upgradeTo` and the call of the new implementation. -/
def upgradeImplementation (e : ν) (s : State) (newImplementation : Address) : Revert State := do
  require (env.hasCode e newImplementation = true) "ERC1967: new implementation is not a contract"
  -- Call initialize function of the new implementation
  env.initializeImplementation e newImplementation { s with implementation := newImplementation }

def submitContractUpgrade (s : State) (timestamp : Nat) (e : ν) (_vm : List UInt8) : Revert State :=
  submit env parseContractUpgrade
    (fun s upgrade => do
      require (upgrade.module' = coreModule) "Invalid Module"
      require (upgrade.chain = s.chainId) "Invalid Chain")
    (fun s upgrade => upgradeImplementation env e s upgrade.newContract) s timestamp _vm

def submitSetMessageFee (s : State) (timestamp : Nat) (_vm : List UInt8) : Revert State :=
  submit env parseSetMessageFee
    (fun s upgrade => do
      require (upgrade.module' = coreModule) "Invalid Module"
      require (upgrade.chain = s.chainId) "Invalid Chain")
    (fun s upgrade => return setMessageFee s upgrade.messageFee) s timestamp _vm

def submitNewGuardianSet (s : State) (timestamp : Nat) (_vm : List UInt8) : Revert State :=
  submit env parseGuardianSetUpgrade
    (fun s upgrade => do
      require (upgrade.module' = coreModule) "invalid Module"
      require (upgrade.chain = s.chainId ∨ upgrade.chain = 0) "invalid Chain"
      require (0 < upgrade.newGuardianSet.keys.length) "new guardian set is empty"
      require (upgrade.newGuardianSetIndex = (← addUint32 s.guardianSetIndex 1))
        "index must increase in steps of 1")
    (fun s upgrade => do
      let s ← expireGuardianSet s timestamp s.guardianSetIndex
      let s := storeGuardianSet s upgrade.newGuardianSet upgrade.newGuardianSetIndex
      return updateGuardianSetIndex s upgrade.newGuardianSetIndex) s timestamp _vm

def submitTransferFees (s : State) (timestamp : Nat) (e : ν) (_vm : List UInt8) : Revert State :=
  submit env parseTransferFees
    (fun s transfer => do
      require (transfer.module' = coreModule) "invalid Module"
      require (transfer.chain = s.chainId ∨ transfer.chain = 0) "invalid Chain")
    (fun s transfer => do
      env.sendEther e transfer.recipient.toAddress transfer.amount
      return s) s timestamp _vm

end

/-! ## One action -/

inductive EntryPoint where
  | submitContractUpgrade
  | submitSetMessageFee
  | submitNewGuardianSet
  | submitTransferFees
  deriving DecidableEq

/-- A call of an entry point with any bytes, in a block. -/
structure Call (ν : Type) where
  entryPoint : EntryPoint
  timestamp : Nat
  chain : ν
  encodedVM : List UInt8

section

variable {ν : Type} (env : Environment ν)

def call (s : State) (c : Call ν) : Revert State :=
  match c.entryPoint with
  | .submitContractUpgrade => submitContractUpgrade env s c.timestamp c.chain c.encodedVM
  | .submitSetMessageFee => submitSetMessageFee env s c.timestamp c.encodedVM
  | .submitNewGuardianSet => submitNewGuardianSet env s c.timestamp c.encodedVM
  | .submitTransferFees => submitTransferFees env s c.timestamp c.chain c.encodedVM

end

/-- The VAA is verified by a quorum of the current set, and its hash is new. -/
structure Governs {ν : Type} (env : Environment ν) (s : State) (timestamp : Nat) (vm : VM) : Prop where
  verified : Verified env.ecrecover s.toWormholeState timestamp vm
  current : vm.guardianSetIndex = s.guardianSetIndex
  fresh : s.consumedGovernanceActions vm.hash = false

section

variable {ν : Type} {env : Environment ν} {s s' : State} {timestamp : Nat}

theorem verifyGovernanceVM_sound {vm : VM} {reason : String}
    (h : verifyGovernanceVM env s timestamp vm = .ok (true, reason)) : Governs env s timestamp vm := by
  obtain ⟨⟨valid, reason'⟩, hverify, h⟩ := bind_eq_ok.mp h
  dsimp only at h
  split at h
  · cases h
  · rename_i hvalid
    split at h
    · cases h
    · rename_i hcurrent
      split at h
      · cases h
      · split at h
        · cases h
        · split at h
          · cases h
          · rename_i hfresh
            rw [Bool.not_eq_false] at hvalid
            subst hvalid
            exact ⟨verifyVM_sound hverify, not_not.mp hcurrent, Bool.eq_false_iff.mpr hfresh⟩

/-- **What the entry points share.** -/
theorem submit_eq_ok {α : Type} {parse : List UInt8 → Revert α} {check : State → α → Revert Unit}
    {act : State → α → Revert State} {_vm : List UInt8}
    (h : submit env parse check act s timestamp _vm = .ok s') :
    ∃ vm upgrade, parseVM env.keccak256 _vm = .ok vm ∧ Governs env s timestamp vm ∧
      parse vm.payload = .ok upgrade ∧ check s upgrade = .ok () ∧
      act (setGovernanceActionConsumed s vm.hash) upgrade = .ok s' := by
  obtain ⟨vm, hvm, h⟩ := bind_eq_ok.mp h
  obtain ⟨⟨isValid, reason⟩, hverify, h⟩ := bind_eq_ok.mp h
  obtain ⟨_, hvalid, h⟩ := bind_eq_ok.mp h
  obtain ⟨upgrade, hparse, h⟩ := bind_eq_ok.mp h
  obtain ⟨_, hcheck, hact⟩ := bind_eq_ok.mp h
  rw [require_eq_ok] at hvalid
  subst hvalid
  exact ⟨vm, upgrade, hvm, verifyGovernanceVM_sound hverify, hparse, hcheck, hact⟩

end

/-- The state but for what governance tracks over a run. -/
structure SameSets (s s' : State) : Prop where
  guardianSets : s'.guardianSets = s.guardianSets
  guardianSetIndex : s'.guardianSetIndex = s.guardianSetIndex
  consumed : s'.consumedGovernanceActions = s.consumedGovernanceActions

/-- An implementation initialises itself and nothing else. -/
def Environment.InitializesItself {ν : Type} (env : Environment ν) : Prop :=
  ∀ e newImplementation s s', env.initializeImplementation e newImplementation s = .ok s' →
    SameSets s s'

/-- **What a set update does**: the current set gets its expiration time, the new one is stored behind it
and becomes the current one. -/
structure Replaces (s s' : State) (timestamp : Nat) : Prop where
  index : s'.guardianSetIndex = s.guardianSetIndex + 1
  old : s'.guardianSets s.guardianSetIndex =
    { s.guardianSets s.guardianSetIndex with expirationTime := timestamp % 2 ^ 32 + 86400 }
  new : (s'.guardianSets (s.guardianSetIndex + 1)).keys ≠ [] ∧
    (s'.guardianSets (s.guardianSetIndex + 1)).expirationTime = 0
  others : ∀ i, i ≠ s.guardianSetIndex → i ≠ s.guardianSetIndex + 1 →
    s'.guardianSets i = s.guardianSets i

section

variable {ν : Type} {env : Environment ν} {s s' : State}

theorem parseGuardianSetUpgrade_expirationTime {encodedUpgrade : List UInt8}
    {upgrade : GuardianSetUpgrade} (h : parseGuardianSetUpgrade encodedUpgrade = .ok upgrade) :
    upgrade.newGuardianSet.expirationTime = 0 := by
  simp only [parseGuardianSetUpgrade, bind_eq_ok] at h
  obtain ⟨_, -, _, -, _, -, _, -, _, -, _, -, _, -, _, -, h⟩ := h
  rw [← Except.ok.inj h]

theorem addUint32_eq_ok {x y z : Nat} (h : addUint32 x y = .ok z) : x + y = z := by
  unfold addUint32 at h
  split at h
  · exact Except.ok.inj h
  · cases h

theorem submitNewGuardianSet_eq_ok {timestamp : Nat} {_vm : List UInt8}
    (h : submitNewGuardianSet env s timestamp _vm = .ok s') :
    ∃ vm, parseVM env.keccak256 _vm = .ok vm ∧ Governs env s timestamp vm ∧
      s'.consumedGovernanceActions = Function.update s.consumedGovernanceActions vm.hash true ∧
      Replaces s s' timestamp := by
  obtain ⟨vm, upgrade, hvm, hgoverns, hparse, hcheck, hact⟩ := submit_eq_ok h
  have hexpiration := parseGuardianSetUpgrade_expirationTime hparse
  simp only [bind_eq_ok, require_eq_ok] at hcheck
  obtain ⟨_, -, _, -, _, hkeys, next, hnext, hindex⟩ := hcheck
  obtain rfl := addUint32_eq_ok hnext
  simp only [expireGuardianSet, bind_eq_ok] at hact
  obtain ⟨s₁, ⟨expiration, hadd, hs₁⟩, hact⟩ := hact
  obtain rfl := addUint32_eq_ok hadd
  obtain rfl := Except.ok.inj hs₁
  obtain rfl := Except.ok.inj hact
  have hne : s.guardianSetIndex ≠ s.guardianSetIndex + 1 := by omega
  refine ⟨vm, hvm, hgoverns, rfl, hindex, ?_, ?_, ?_⟩
  · simp only [updateGuardianSetIndex, storeGuardianSet, setGovernanceActionConsumed, hindex]
    rw [Function.update_of_ne hne, Function.update_self]
  · simp only [updateGuardianSetIndex, storeGuardianSet, setGovernanceActionConsumed, hindex]
    rw [Function.update_self]
    exact ⟨List.ne_nil_of_length_pos hkeys, hexpiration⟩
  · intro i hold hnew
    simp only [updateGuardianSetIndex, storeGuardianSet, setGovernanceActionConsumed, hindex]
    rw [Function.update_of_ne hnew, Function.update_of_ne hold]

/-- **What an executed call does**: a set update replaces the current set, the other three only consume
the hash. -/
theorem call_eq_ok (hinit : env.InitializesItself) {c : Call ν} (h : call env s c = .ok s') :
    ∃ vm, parseVM env.keccak256 c.encodedVM = .ok vm ∧ Governs env s c.timestamp vm ∧
      s'.consumedGovernanceActions = Function.update s.consumedGovernanceActions vm.hash true ∧
      (c.entryPoint = .submitNewGuardianSet ∧ Replaces s s' c.timestamp ∨
        c.entryPoint ≠ .submitNewGuardianSet ∧ s'.guardianSets = s.guardianSets ∧
          s'.guardianSetIndex = s.guardianSetIndex) := by
  unfold call at h
  split at h
  · rename_i hentry
    obtain ⟨vm, upgrade, hvm, hgoverns, -, -, hact⟩ := submit_eq_ok h
    obtain ⟨_, -, hact⟩ := bind_eq_ok.mp hact
    obtain ⟨hsets, hindex, hconsumed⟩ := hinit _ _ _ _ hact
    exact ⟨vm, hvm, hgoverns, hconsumed, .inr ⟨by rw [hentry]; decide, hsets, hindex⟩⟩
  · rename_i hentry
    obtain ⟨vm, upgrade, hvm, hgoverns, -, -, hact⟩ := submit_eq_ok h
    obtain rfl := Except.ok.inj hact
    exact ⟨vm, hvm, hgoverns, rfl, .inr ⟨by rw [hentry]; decide, rfl, rfl⟩⟩
  · rename_i hentry
    obtain ⟨vm, hvm, hgoverns, hconsumed, hreplaces⟩ := submitNewGuardianSet_eq_ok h
    exact ⟨vm, hvm, hgoverns, hconsumed, .inl ⟨hentry, hreplaces⟩⟩
  · rename_i hentry
    obtain ⟨vm, transfer, hvm, hgoverns, -, -, hact⟩ := submit_eq_ok h
    obtain ⟨_, -, hact⟩ := bind_eq_ok.mp hact
    obtain rfl := Except.ok.inj hact
    exact ⟨vm, hvm, hgoverns, rfl, .inr ⟨by rw [hentry]; decide, rfl, rfl⟩⟩

end

/-! ## Runs -/

/-- An executed governance VAA. -/
structure Execution where
  entryPoint : EntryPoint
  hash : List UInt8

section

variable {ν : Type} (env : Environment ν)

/-- One call; the list keeps the VAAs that have been executed. -/
def step (t : State × List Execution) (c : Call ν) : Option (State × List Execution) := do
  let s ← (call env t.1 c).toOption
  let vm ← (parseVM env.keccak256 c.encodedVM).toOption
  return (s, t.2 ++ [⟨c.entryPoint, vm.hash⟩])

end

/-- How many of them were set updates. -/
def updates (log : List Execution) : Nat :=
  (log.filter fun x => x.entryPoint = .submitNewGuardianSet).length

/-- **The invariant**: what has been executed is consumed and different; the sets up to the current one
are non-empty, behind it nothing is stored. -/
structure Governed (t : State × List Execution) : Prop where
  consumed : ∀ x ∈ t.2, t.1.consumedGovernanceActions x.hash = true
  once : (t.2.map Execution.hash).Nodup
  index : t.1.guardianSetIndex = updates t.2
  stored : ∀ i ≤ t.1.guardianSetIndex, (t.1.guardianSets i).keys ≠ []
  empty : ∀ i, t.1.guardianSetIndex < i → t.1.guardianSets i = { keys := [], expirationTime := 0 }

section

variable {ν : Type} {env : Environment ν}

theorem step_eq_some {t t' : State × List Execution} {c : Call ν} (h : step env t c = some t') :
    ∃ vm, call env t.1 c = .ok t'.1 ∧ parseVM env.keccak256 c.encodedVM = .ok vm ∧
      t'.2 = t.2 ++ [⟨c.entryPoint, vm.hash⟩] := by
  obtain ⟨s, hs, h⟩ := Option.bind_eq_some_iff.mp h
  obtain ⟨vm, hvm, h⟩ := Option.bind_eq_some_iff.mp h
  obtain rfl := Option.some.inj h
  exact ⟨vm, toOption_eq_some hs, toOption_eq_some hvm, rfl⟩

theorem Governed.of_setup {implementation : Address} {initialGuardians : List Address}
    {chainId governanceChainId : Nat} {governanceContract : List UInt8} {s : State}
    (h : setup implementation initialGuardians chainId governanceChainId governanceContract = .ok s) :
    Governed (s, []) := by
  obtain ⟨_, hkeys, h⟩ := bind_eq_ok.mp h
  rw [require_eq_ok] at hkeys
  obtain rfl := Except.ok.inj h
  refine ⟨by simp, by simp, rfl, ?_, ?_⟩
  · intro i hi
    obtain rfl : i = 0 := Nat.le_zero.mp hi
    exact List.ne_nil_of_length_pos hkeys
  · intro i hi
    exact Function.update_of_ne (Nat.pos_iff_ne_zero.mp hi) _ _

/-- **Step.** -/
theorem Governed.step (hinit : env.InitializesItself) {t t' : State × List Execution} {c : Call ν}
    (ht : Governed t) (h : step env t c = some t') : Governed t' := by
  obtain ⟨vm, hcall, hvm, hlog⟩ := step_eq_some h
  obtain ⟨vm', hvm', hgoverns, hconsumed, heffect⟩ := call_eq_ok hinit hcall
  obtain rfl : vm' = vm := Except.ok.inj (hvm'.symm.trans hvm)
  have hnew : ∀ x ∈ t.2, x.hash ≠ vm'.hash := by
    intro x hx heq
    have hx := ht.consumed x hx
    rw [heq, hgoverns.fresh] at hx
    cases hx
  have hconsumed' : ∀ x ∈ t'.2, t'.1.consumedGovernanceActions x.hash = true := by
    intro x hx
    rw [hconsumed]
    rw [hlog, List.mem_append, List.mem_singleton] at hx
    rcases hx with hx | rfl
    · rw [Function.update_of_ne (hnew x hx)]
      exact ht.consumed x hx
    · exact Function.update_self ..
  have honce : (t'.2.map Execution.hash).Nodup := by
    rw [hlog, List.map_append, List.nodup_append]
    refine ⟨ht.once, by simp, ?_⟩
    intro hash hmem last hlast
    obtain ⟨x, hx, rfl⟩ := List.mem_map.mp hmem
    rw [List.map_singleton, List.mem_singleton] at hlast
    rw [hlast]
    exact hnew x hx
  rcases heffect with ⟨hentry, hreplaces⟩ | ⟨hentry, hsets, hindex⟩
  · refine ⟨hconsumed', honce, ?_, ?_, ?_⟩
    · rw [hreplaces.index, ht.index, hlog]
      simp [updates, hentry]
    · intro i hi
      rw [hreplaces.index] at hi
      rcases Nat.lt_or_ge i (t.1.guardianSetIndex + 1) with hle | hge
      · by_cases hcurrent : i = t.1.guardianSetIndex
        · rw [hcurrent, hreplaces.old]
          exact ht.stored _ le_rfl
        · rw [hreplaces.others i hcurrent (by omega)]
          exact ht.stored i (by omega)
      · obtain rfl : i = t.1.guardianSetIndex + 1 := Nat.le_antisymm hi hge
        exact hreplaces.new.1
    · intro i hi
      rw [hreplaces.index] at hi
      rw [hreplaces.others i (by omega) (by omega)]
      exact ht.empty i (by omega)
  · refine ⟨hconsumed', honce, ?_, ?_, ?_⟩
    · rw [hindex, ht.index, hlog]
      simp [updates, hentry]
    · rw [hindex, hsets]
      exact ht.stored
    · rw [hindex, hsets]
      exact ht.empty

theorem Governed.of_run (hinit : env.InitializesItself) {s t : State × List Execution}
    (hs : Governed s) (h : Run (Governance.step env) (fun _ _ => True) s t) : Governed t :=
  h.invariant (fun _ _ _ ht _ hstep => ht.step hinit hstep) hs

/-- **Run.** The keys of a stored set never change. -/
theorem keys_of_run (hinit : env.InitializesItself) {s t : State × List Execution}
    (h : Run (Governance.step env) (fun _ _ => True) s t) :
    s.1.guardianSetIndex ≤ t.1.guardianSetIndex ∧
      ∀ i ≤ s.1.guardianSetIndex, (t.1.guardianSets i).keys = (s.1.guardianSets i).keys := by
  refine h.invariant (I := fun t => s.1.guardianSetIndex ≤ t.1.guardianSetIndex ∧
    ∀ i ≤ s.1.guardianSetIndex, (t.1.guardianSets i).keys = (s.1.guardianSets i).keys) ?_
    ⟨le_rfl, fun _ _ => rfl⟩
  rintro t c t' ⟨hle, hkeys⟩ - hstep
  obtain ⟨vm, hcall, -, -⟩ := step_eq_some hstep
  obtain ⟨-, -, -, -, heffect⟩ := call_eq_ok hinit hcall
  rcases heffect with ⟨-, hreplaces⟩ | ⟨-, hsets, hindex⟩
  · refine ⟨by rw [hreplaces.index]; omega, ?_⟩
    intro i hi
    rw [← hkeys i hi]
    by_cases hcurrent : i = t.1.guardianSetIndex
    · rw [hcurrent, hreplaces.old]
    · rw [hreplaces.others i hcurrent (by omega)]
  · rw [hindex, hsets]
    exact ⟨hle, hkeys⟩

end

/-- **Governance.** In every state that a run of the four entry points reaches after the setup: no hash
has been executed twice; the current index is the number of executed set updates; the sets up to it have
keys, which never change again; a call that returns was verified by a quorum of the current set and its
hash was not consumed; a set update stores the expiration time `uint32(block.timestamp) + 86400` in the
set it replaces and leaves the other expiration times alone; and a call that reverts changes nothing. -/
theorem governed {ν : Type} (env : Environment ν) (hinit : env.InitializesItself)
    {implementation : Address} {initialGuardians : List Address} {chainId governanceChainId : Nat}
    {governanceContract : List UInt8} {s₀ : State}
    (hsetup : setup implementation initialGuardians chainId governanceChainId governanceContract = .ok s₀)
    {t : State × List Execution} (hrun : Run (step env) (fun _ _ => True) (s₀, []) t) :
    (t.2.map Execution.hash).Nodup ∧
    t.1.guardianSetIndex = updates t.2 ∧
    (∀ i ≤ t.1.guardianSetIndex, (t.1.guardianSets i).keys ≠ []) ∧
    (∀ t', Run (step env) (fun _ _ => True) t t' → ∀ i ≤ t.1.guardianSetIndex,
      (t'.1.guardianSets i).keys = (t.1.guardianSets i).keys) ∧
    (∀ (c : Call ν) (s' : State), call env t.1 c = .ok s' →
      ∃ vm, parseVM env.keccak256 c.encodedVM = .ok vm ∧ Governs env t.1 c.timestamp vm ∧
        s'.consumedGovernanceActions vm.hash = true ∧
        (c.entryPoint = .submitNewGuardianSet → s'.guardianSetIndex = t.1.guardianSetIndex + 1) ∧
        ∀ i, (s'.guardianSets i).expirationTime =
          if c.entryPoint = .submitNewGuardianSet ∧ i = t.1.guardianSetIndex then
            c.timestamp % 2 ^ 32 + 86400
          else (t.1.guardianSets i).expirationTime) ∧
    ∀ (c : Call ν) (reason : String), call env t.1 c = .error reason →
      attempt (step env) t c = t := by
  have hgoverned := (Governed.of_setup hsetup).of_run hinit hrun
  refine ⟨hgoverned.once, hgoverned.index, hgoverned.stored, ?_, ?_, ?_⟩
  · intro t' hrun'
    exact (keys_of_run hinit hrun').2
  · intro c s' hcall
    obtain ⟨vm, hvm, hgoverns, hconsumed, heffect⟩ := call_eq_ok hinit hcall
    refine ⟨vm, hvm, hgoverns, by rw [hconsumed, Function.update_self], ?_⟩
    rcases heffect with ⟨hentry, hreplaces⟩ | ⟨hentry, hsets, -⟩
    · refine ⟨fun _ => hreplaces.index, ?_⟩
      intro i
      by_cases hcurrent : i = t.1.guardianSetIndex
      · rw [if_pos ⟨hentry, hcurrent⟩, hcurrent, hreplaces.old]
      · rw [if_neg fun h => hcurrent h.2]
        by_cases hnext : i = t.1.guardianSetIndex + 1
        · rw [hnext, hreplaces.new.2, hgoverned.empty _ (Nat.lt_succ_self _)]
        · rw [hreplaces.others i hcurrent hnext]
    · refine ⟨fun h => absurd h hentry, ?_⟩
      intro i
      rw [if_neg fun h => hentry h.1, hsets]
  · intro c reason hcall
    refine attempt_eq_of_none ?_
    rw [step, hcall]
    rfl

/-! ## Inputs -/

def sampleEnvironment : Environment Unit where
  keccak256 := sampleKeccak
  ecrecover := sampleEcrecover
  hasCode := fun _ _ => true
  initializeImplementation := fun _ newImplementation s => .ok { s with
    initializedImplementations := Function.update s.initializedImplementations newImplementation true }
  sendEther := fun _ _ _ => .ok ()

theorem sampleEnvironment_initializesItself : sampleEnvironment.InitializesItself := by
  intro e newImplementation s s' h
  obtain rfl := Except.ok.inj h
  exact ⟨rfl, rfl, rfl⟩

/-- Set up with four guardians; the governance contract is on the chain 2. -/
def sampleSetup : Revert State := setup sampleKey sampleKeys 4 2 sampleKey.toWord.val

def sampleStart : State :=
  { storeGuardianSet State.zero { keys := sampleKeys, expirationTime := 0 } 0 with
    chainId := 4, governanceChainId := 2, governanceContract := sampleKey.toWord.val
    implementation := sampleKey }

/-- The update to the set 1, of the first guardian alone. -/
def sampleUpdate (timestamp : Nat) : Call Unit where
  entryPoint := .submitNewGuardianSet
  timestamp
  chain := ()
  encodedVM := sampleEncodedVM sampleKey.toWord
    (coreModule ++ [0x02, 0x00, 0x00, 0x00, 0x00, 0x00, 0x01, 0x01] ++ sampleKey.val)

/-- The second update is no longer next in line. -/
theorem governed_sample :
    ∃ t, Run (step sampleEnvironment) (fun _ _ => True) (sampleStart, []) t ∧ t.2.length = 1 ∧
      t.1.guardianSetIndex = updates t.2 := by
  have hrun : Run (step sampleEnvironment) (fun _ _ => True) (sampleStart, [])
      (attempts (step sampleEnvironment) (sampleStart, []) [sampleUpdate 1000, sampleUpdate 2000]) :=
    run_attempts (P := fun _ => True) _ _ fun _ _ => trivial
  have hsetup : sampleSetup = .ok sampleStart := rfl
  exact ⟨_, hrun, by decide +kernel,
    (governed sampleEnvironment sampleEnvironment_initializesItself hsetup hrun).2.1⟩

/-- **A block time behind the range of `uint32`.** The replaced set has already expired. -/
theorem expirationTime_cut :
    ∃ s₀ s', sampleSetup = .ok s₀ ∧ call sampleEnvironment s₀ (sampleUpdate (2 ^ 32)) = .ok s' ∧
      (s'.guardianSets s₀.guardianSetIndex).expirationTime = 86400 ∧
      (s'.guardianSets s₀.guardianSetIndex).expirationTime ≠ 2 ^ 32 + 86400 := by
  have hrun : (call sampleEnvironment sampleStart (sampleUpdate (2 ^ 32))).toOption.map
      (fun s => (s.guardianSets 0).expirationTime) = some 86400 := by decide +kernel
  obtain ⟨s', hs', hexpiration⟩ := Option.map_eq_some_iff.mp hrun
  refine ⟨sampleStart, s', rfl, toOption_eq_some hs', hexpiration, ?_⟩
  rw [show sampleStart.guardianSetIndex = 0 from rfl, hexpiration]
  decide

end Wormhole.Ethereum.Governance
