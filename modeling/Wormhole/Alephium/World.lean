/-
# Wormhole.Alephium.World — the token bridge among other contracts.

A `World` holds the deployed `Governance`, `TokenBridge` and `TokenWrapperFactory`, the contracts that
have the code of a `TokenBridgeForChain` or a `TokenWrapper`, and the ids of all others.  Anybody may
deploy a contract with any code and any initial state, and any contract may make any call; a `Call` is
one such call into a contract of the bridge.  The answers of contracts outside are part of the call.

The `log` keeps what the calls have left behind, in order: events, and completed transfers (which emit
none).  `step_effect` says once what an accepted call does; the results about runs start from it.
-/
import Mathlib
import Wormhole.Lib.Transition
import Wormhole.Alephium.Vm
import Wormhole.Alephium.Sequence
import Wormhole.Alephium.Governance
import Wormhole.Alephium.GuardianQuorum
import Wormhole.Alephium.TokenBridge

namespace Wormhole.Alephium

open Wormhole.Lib.Bytes Wormhole.Lib.Transition Wormhole.Alephium.Vm
open Wormhole.Alephium.Governance (Body Crypto WormholeMessage)

/-! ## State -/

/-- What is known of the contract behind an id. -/
inductive Contract where
  /-- one of the three contracts deployed at the start -/
  | deployed
  | tokenBridgeForChain (s : TokenBridgeForChain.State)
  | tokenWrapper (s : TokenWrapper.State)
  /-- any other code -/
  | other
  deriving DecidableEq

/-- What a call leaves behind. -/
inductive Entry where
  /-- the event `ContractCreated` of the `TokenBridge` -/
  | tokenBridgeForChainCreated (id : ContractId)
  /-- the event `ContractCreated` of the `TokenWrapperFactory` -/
  | tokenWrapperCreated (id : ContractId)
  /-- the event `WormholeMessage`, and the contract the message comes from -/
  | published (origin : ContractId) (message : WormholeMessage)
  /-- a transfer VAA accepted by the `TokenBridgeForChain` at `bridge` -/
  | completed (bridge : ContractId) (msg : Body)
  deriving DecidableEq

structure World where
  governanceId : ContractId
  tokenBridgeId : ContractId
  tokenWrapperFactoryId : ContractId
  governance : Governance.State
  tokenBridge : TokenBridge.State
  contracts : ContractId → Option Contract
  log : List Entry

namespace World

/-- The `TokenBridgeForChain` at an id. -/
def bridgeAt (w : World) (id : ContractId) : Option TokenBridgeForChain.State :=
  match w.contracts id with
  | some (.tokenBridgeForChain s) => some s
  | _ => none

/-- The `TokenWrapper` at an id. -/
def wrapperAt (w : World) (id : ContractId) : Option TokenWrapper.State :=
  match w.contracts id with
  | some (.tokenWrapper s) => some s
  | _ => none

/-- Create a contract, or write back its state. -/
def set (w : World) (id : ContractId) (c : Contract) : World :=
  { w with contracts := Function.update w.contracts id (some c) }

def record (w : World) (e : Entry) : World := { w with log := w.log ++ [e] }

/-- Created by `TokenBridge.registerChain`. -/
def Registered (w : World) (id : ContractId) : Prop := .tokenBridgeForChainCreated id ∈ w.log

/-- Created by `TokenWrapperFactory.createWrapper`. -/
def Wrapped (w : World) (id : ContractId) : Prop := .tokenWrapperCreated id ∈ w.log

instance (w : World) (id : ContractId) : Decidable (w.Registered id) :=
  inferInstanceAs (Decidable (_ ∈ _))

instance (w : World) (id : ContractId) : Decidable (w.Wrapped id) :=
  inferInstanceAs (Decidable (_ ∈ _))

theorem bridgeAt_eq_some {w : World} {id : ContractId} {s : TokenBridgeForChain.State} :
    w.bridgeAt id = some s ↔ w.contracts id = some (.tokenBridgeForChain s) := by
  unfold bridgeAt
  split <;> simp_all

theorem wrapperAt_eq_some {w : World} {id : ContractId} {s : TokenWrapper.State} :
    w.wrapperAt id = some s ↔ w.contracts id = some (.tokenWrapper s) := by
  unfold wrapperAt
  split <;> simp_all

@[simp]
theorem set_contracts_self (w : World) (id : ContractId) (c : Contract) :
    (w.set id c).contracts id = some c := Function.update_self ..

theorem set_contracts_of_ne {id a : ContractId} (h : a ≠ id) (w : World) (c : Contract) :
    (w.set id c).contracts a = w.contracts a := Function.update_of_ne h ..

@[simp]
theorem bridgeAt_set_self (w : World) (id : ContractId) (s : TokenBridgeForChain.State) :
    (w.set id (.tokenBridgeForChain s)).bridgeAt id = some s := by
  rw [bridgeAt_eq_some, set_contracts_self]

theorem bridgeAt_set_of_ne {id a : ContractId} (h : a ≠ id) (w : World) (c : Contract) :
    (w.set id c).bridgeAt a = w.bridgeAt a := by
  rw [bridgeAt, set_contracts_of_ne h, bridgeAt]

@[simp]
theorem wrapperAt_set_self (w : World) (id : ContractId) (s : TokenWrapper.State) :
    (w.set id (.tokenWrapper s)).wrapperAt id = some s := by
  rw [wrapperAt_eq_some, set_contracts_self]

/-- An id in use is not that of a new contract. -/
theorem ne_of_bridgeAt {w : World} {id new : ContractId} {s : TokenBridgeForChain.State}
    (h : w.bridgeAt id = some s) (hnew : w.contracts new = none) : id ≠ new := by
  rintro rfl
  rw [bridgeAt_eq_some, hnew] at h
  cases h

@[simp]
theorem set_log (w : World) (id : ContractId) (c : Contract) : (w.set id c).log = w.log := rfl

@[simp]
theorem record_contracts (w : World) (e : Entry) : (w.record e).contracts = w.contracts := rfl

@[simp]
theorem record_log (w : World) (e : Entry) : (w.record e).log = w.log ++ [e] := rfl

/-- Before the first registration. -/
structure Fresh (w : World) : Prop where
  contracts : ∀ id, w.contracts id = none ∨ w.contracts id = some .deployed ∨
    w.contracts id = some .other
  governance : w.contracts w.governanceId = some .deployed
  tokenBridge : w.contracts w.tokenBridgeId = some .deployed
  tokenWrapperFactory : w.contracts w.tokenWrapperFactoryId = some .deployed
  log : w.log = []

end World

/-! ## Calls -/

inductive Call where
  /-- of the `Governance` contract -/
  | updateGuardianSet (vaa : ByteVec)
  | setMessageFee (vaa : ByteVec)
  | submitTransferFee (vaa : ByteVec)
  | publishMessage (caller : ContractId) (sequence : Nat) (nonce payload : ByteVec)
      (consistencyLevel : Nat)
  /-- of the `TokenBridge`; `new` is the id of the contract it creates -/
  | registerChain (vaa : ByteVec) (new : ContractId)
  | attestToken (tokenId : ByteVec) (token : TokenInfo) (nonce : ByteVec) (consistencyLevel : Nat)
  /-- of the `TokenBridgeForChain` at `bridge`; `answer` is what `parseAndVerify` returns when its
  local token bridge is another contract -/
  | createWrapperForLocalToken (bridge : ContractId) (tokenId : ByteVec) (token : TokenInfo)
      (new : ContractId)
  | createWrapperForRemoteToken (bridge : ContractId) (vaa : ByteVec) (answer : Option Body)
      (new : ContractId)
  /-- of the `TokenWrapperFactory`, by any other contract -/
  | createWrapper (caller : ContractId) (tokenBridgeId : ByteVec) (localChainId remoteChainId : Nat)
      (tokenContractId : ByteVec) (isLocalToken : Bool) (token : TokenInfo) (new : ContractId)
  /-- of the `TokenWrapper` at `wrapper` -/
  | transfer (wrapper : ContractId) (toAddress : ByteVec) (amount arbiterFee : Nat) (nonce : ByteVec)
      (consistencyLevel : Nat)
  | completeTransfer (wrapper : ContractId) (vaa : ByteVec) (answer : Option Body)
  /-- the creation of a contract by anybody -/
  | deploy (c : Contract) (new : ContractId)

/-- A call in a block with the time stamp `now`. -/
structure Tx where
  now : Nat
  call : Call

section Step

variable (crypto : Crypto) (distance : Nat)

/-- `TokenBridge(bridgeId).parseAndVerify(vaa)`. -/
def parseAndVerify (w : World) (now : Nat) (bridgeId vaa : ByteVec) (answer : Option Body) :
    Option Body :=
  if bridgeId = w.tokenBridgeId.val then Governance.parseAndVerifyVAA crypto w.governance now vaa
  else answer

def registerChain (w : World) (now : Nat) (vaa : ByteVec) (new : ContractId) : Option World := do
  let msg ← Governance.parseAndVerifyVAA crypto w.governance now vaa
  let (tokenBridge, s) ← TokenBridge.registerChain distance w.tokenBridgeId w.tokenBridge msg
  assert (w.contracts new = none)
  return ({ w with tokenBridge }.set new (.tokenBridgeForChain s)).record
    (.tokenBridgeForChainCreated new)

/-- The end of `createWrapper`: the new contract and its event. -/
def addWrapper (w : World) (s : TokenWrapper.State) (new : ContractId) : Option World := do
  assert (w.contracts new = none)
  return (w.set new (.tokenWrapper s)).record (.tokenWrapperCreated new)

def createWrapperForLocalToken (w : World) (bridge : ContractId) (tokenId : ByteVec)
    (token : TokenInfo) (new : ContractId) : Option World := do
  let s ← w.bridgeAt bridge
  let wrapper ← TokenBridgeForChain.createWrapperForLocalToken bridge s tokenId token
  addWrapper w wrapper new

def createWrapperForRemoteToken (w : World) (now : Nat) (bridge : ContractId) (vaa : ByteVec)
    (answer : Option Body) (new : ContractId) : Option World := do
  let s ← w.bridgeAt bridge
  let msg ← parseAndVerify crypto w now s.localTokenBridgeId vaa answer
  let (s, wrapper) ← TokenBridgeForChain.createWrapperForRemoteToken distance bridge s msg
  addWrapper (w.set bridge (.tokenBridgeForChain s)) wrapper new

def createWrapper (w : World) (caller : ContractId) (tokenBridgeId : ByteVec)
    (localChainId remoteChainId : Nat) (tokenContractId : ByteVec) (isLocalToken : Bool)
    (token : TokenInfo) (new : ContractId) : Option World := do
  assert (w.contracts caller = some .other)
  let wrapper ← TokenWrapperFactory.createWrapper caller tokenBridgeId localChainId remoteChainId
    tokenContractId isLocalToken token.decimals token.symbol token.name
  addWrapper w wrapper new

/-- A wrapper of another token bridge publishes nothing here. -/
def transfer (w : World) (wrapper : ContractId) (toAddress : ByteVec) (amount arbiterFee : Nat)
    (nonce : ByteVec) (consistencyLevel : Nat) : Option World := do
  let s ← w.wrapperAt wrapper
  let data ← TokenWrapper.transfer s toAddress amount arbiterFee nonce
  assert (s.tokenBridgeId = w.tokenBridgeId.val)
  let (tokenBridge, message) ← TokenBridge.publishTransfer w.tokenBridgeId wrapper w.tokenBridge data
    nonce consistencyLevel
  return { w with tokenBridge }.record (.published wrapper message)

/-- A wrapper whose `tokenBridgeForChainId` names a contract with other code completes nothing
here. -/
def completeTransfer (w : World) (now : Nat) (wrapper : ContractId) (vaa : ByteVec)
    (answer : Option Body) : Option World := do
  let wrapped ← w.wrapperAt wrapper
  let bridge ← contractId? wrapped.tokenBridgeForChainId
  let s ← w.bridgeAt bridge
  let msg ← parseAndVerify crypto w now s.localTokenBridgeId vaa answer
  let (s, transfer) ← TokenBridgeForChain.parseTransfer distance s msg
  let _ ← TokenWrapper.completeTransfer wrapped transfer
  return (w.set bridge (.tokenBridgeForChain s)).record (.completed bridge msg)

/-- One call; an abort rejects it. -/
def step (w : World) (tx : Tx) : Option World :=
  match tx.call with
  | .updateGuardianSet vaa => do
    let governance ← Governance.updateGuardianSet crypto distance w.governance tx.now vaa
    return { w with governance }
  | .setMessageFee vaa => do
    let governance ← Governance.setMessageFee crypto distance w.governance tx.now vaa
    return { w with governance }
  | .submitTransferFee vaa => do
    let (governance, _) ← Governance.submitTransferFee crypto distance w.governance tx.now vaa
    return { w with governance }
  | .publishMessage caller sequence nonce payload consistencyLevel => do
    assert (w.contracts caller = some .other)
    return w.record (.published caller
      (Governance.publishMessage caller sequence nonce payload consistencyLevel))
  | .registerChain vaa new => registerChain crypto distance w tx.now vaa new
  | .attestToken tokenId token nonce consistencyLevel => do
    let (tokenBridge, message) ← TokenBridge.attestToken w.tokenBridgeId w.tokenBridge tokenId token
      nonce consistencyLevel
    return { w with tokenBridge }.record (.published w.tokenBridgeId message)
  | .createWrapperForLocalToken bridge tokenId token new =>
    createWrapperForLocalToken w bridge tokenId token new
  | .createWrapperForRemoteToken bridge vaa answer new =>
    createWrapperForRemoteToken crypto distance w tx.now bridge vaa answer new
  | .createWrapper caller tokenBridgeId localChainId remoteChainId tokenContractId isLocalToken token
      new =>
    createWrapper w caller tokenBridgeId localChainId remoteChainId tokenContractId isLocalToken token
      new
  | .transfer wrapper toAddress amount arbiterFee nonce consistencyLevel =>
    transfer w wrapper toAddress amount arbiterFee nonce consistencyLevel
  | .completeTransfer wrapper vaa answer =>
    completeTransfer crypto distance w tx.now wrapper vaa answer
  | .deploy c new => do
    assert (w.contracts new = none ∧ c ≠ .deployed)
    return w.set new c

/-- The contract that calls the factory and the token id it asks a wrapper for. -/
def wrapRequest (w : World) (tx : Tx) : Option (ContractId × ByteVec) :=
  match tx.call with
  | .createWrapperForLocalToken bridge tokenId _ _ => some (bridge, tokenId)
  | .createWrapperForRemoteToken bridge vaa answer _ => do
    let s ← w.bridgeAt bridge
    let msg ← parseAndVerify crypto w tx.now s.localTokenBridgeId vaa answer
    return (bridge, ← byteVecSlice msg.payload 1 33)
  | .createWrapper caller _ _ _ tokenContractId _ _ _ => some (caller, tokenContractId)
  | _ => none

/-! ## What a call does -/

/-- A `TokenBridgeForChain` before and after it has verified `msg`. -/
structure Replayed (w : World) (s s' : TokenBridgeForChain.State) (msg : Body) : Prop where
  chain : msg.emitterChainId = s.remoteChainId
  address : msg.emitterAddress = s.remoteTokenBridgeId
  /-- A VAA that the real token bridge has parsed. -/
  lt : s.localTokenBridgeId = w.tokenBridgeId.val → msg.sequence < 2 ^ 64
  window : ∃ replay, Sequence.call distance s.replay msg.sequence = some replay ∧
    s' = { s with replay }

/-- **What an accepted call can do to the world.** -/
inductive Effect (w : World) (tx : Tx) : World → Prop where
  | governance (governance : Governance.State) : Effect w tx { w with governance }
  | publish (caller : ContractId) (sequence : Nat) (nonce payload : ByteVec) (consistencyLevel : Nat)
      (hcall : tx.call = .publishMessage caller sequence nonce payload consistencyLevel)
      (hcaller : w.contracts caller = some .other) :
      Effect w tx (w.record (.published caller
        (Governance.publishMessage caller sequence nonce payload consistencyLevel)))
  | register (vaa : ByteVec) (new : ContractId) (msg : Body) (tokenBridge : TokenBridge.State)
      (s : TokenBridgeForChain.State) (hcall : tx.call = .registerChain vaa new)
      (hmsg : Governance.parseAndVerifyVAA crypto w.governance tx.now vaa = some msg)
      (hregister : TokenBridge.registerChain distance w.tokenBridgeId w.tokenBridge msg
        = some (tokenBridge, s))
      (hnew : w.contracts new = none) :
      Effect w tx (({ w with tokenBridge }.set new (.tokenBridgeForChain s)).record
        (.tokenBridgeForChainCreated new))
  | attest (tokenId : ByteVec) (token : TokenInfo) (nonce : ByteVec) (consistencyLevel : Nat)
      (tokenBridge : TokenBridge.State) (message : WormholeMessage)
      (hattest : TokenBridge.attestToken w.tokenBridgeId w.tokenBridge tokenId token nonce
        consistencyLevel = some (tokenBridge, message)) :
      Effect w tx ({ w with tokenBridge }.record (.published w.tokenBridgeId message))
  | wrapFor (bridge new : ContractId) (b b' : TokenBridgeForChain.State) (s : TokenWrapper.State)
      (hrequest : wrapRequest crypto w tx = some (bridge, s.tokenContractId))
      (hb : w.bridgeAt bridge = some b) (hb' : b' = b ∨ ∃ msg, Replayed distance w b b' msg)
      (hs : s.tokenBridgeForChainId = bridge.val ∧ s.tokenBridgeId = b.localTokenBridgeId ∧
        s.remoteChainId = b.remoteChainId ∧ s.tokenContractId.length = 32)
      (hnew : w.contracts new = none) :
      Effect w tx (((w.set bridge (.tokenBridgeForChain b')).set new (.tokenWrapper s)).record
        (.tokenWrapperCreated new))
  | wrapOther (caller new : ContractId) (s : TokenWrapper.State)
      (hrequest : wrapRequest crypto w tx = some (caller, s.tokenContractId))
      (hcaller : w.contracts caller = some .other) (hs : s.tokenBridgeForChainId = caller.val)
      (hnew : w.contracts new = none) :
      Effect w tx ((w.set new (.tokenWrapper s)).record (.tokenWrapperCreated new))
  | transfer (wrapper : ContractId) (toAddress : ByteVec) (amount arbiterFee : Nat) (nonce : ByteVec)
      (consistencyLevel : Nat) (s : TokenWrapper.State) (data : ByteVec)
      (tokenBridge : TokenBridge.State) (message : WormholeMessage)
      (hcall : tx.call = .transfer wrapper toAddress amount arbiterFee nonce consistencyLevel)
      (hs : w.wrapperAt wrapper = some s)
      (hdata : TokenWrapper.transfer s toAddress amount arbiterFee nonce = some data)
      (hbridge : s.tokenBridgeId = w.tokenBridgeId.val)
      (hpublish : TokenBridge.publishTransfer w.tokenBridgeId wrapper w.tokenBridge data nonce
        consistencyLevel = some (tokenBridge, message)) :
      Effect w tx ({ w with tokenBridge }.record (.published wrapper message))
  | complete (bridge : ContractId) (b b' : TokenBridgeForChain.State) (msg : Body)
      (hb : w.bridgeAt bridge = some b) (hb' : Replayed distance w b b' msg) :
      Effect w tx ((w.set bridge (.tokenBridgeForChain b')).record (.completed bridge msg))
  | deploy (c : Contract) (new : ContractId) (hnew : w.contracts new = none) (hc : c ≠ .deployed) :
      Effect w tx (w.set new c)

section Effect

variable {crypto distance} {w w' : World} {now : Nat}

theorem verifyVAA_eq_some {s s' : TokenBridgeForChain.State} {msg : Body} {payload : ByteVec} :
    TokenBridgeForChain.verifyVAA distance s msg = some (s', payload) ↔
      msg.emitterChainId = s.remoteChainId ∧ msg.emitterAddress = s.remoteTokenBridgeId ∧
      (∃ replay, Sequence.call distance s.replay msg.sequence = some replay ∧
        s' = { s with replay }) ∧ payload = msg.payload := by
  simp only [TokenBridgeForChain.verifyVAA, Option.bind_eq_bind, Option.bind_eq_some_iff,
    assert_eq_some, Option.pure_def, Option.some_inj, Sequence.call, Option.map_eq_some_iff,
    Prod.mk.injEq]
  constructor
  · rintro ⟨_, hchain, _, haddress, ⟨replay, events⟩, hcheck, rfl, rfl⟩
    exact ⟨hchain, haddress, ⟨replay, ⟨⟨replay, events⟩, hcheck, rfl⟩, rfl⟩, rfl⟩
  · rintro ⟨hchain, haddress, ⟨replay, ⟨⟨_, events⟩, hcheck, rfl⟩, rfl⟩, rfl⟩
    exact ⟨(), hchain, (), haddress, _, hcheck, rfl, rfl⟩

/-- A parsed body's sequence number is a `uint64`. -/
theorem parseBody_sequence_lt {body : ByteVec} {msg : Body}
    (h : Governance.parseBody body = some msg) : msg.sequence < 2 ^ 64 := by
  simp only [Governance.parseBody, Option.bind_eq_bind, Option.bind_eq_some_iff,
    Option.pure_def, Option.some_inj] at h
  obtain ⟨_, -, _, -, _, -, _, -, _, -, _, -, _, -, _, -, sequence, hsequence, _, -, _, -, _, -, rfl⟩ := h
  exact u256FromBytes_lt hsequence

theorem parseAndVerify_lt {bridgeId vaa : ByteVec} {answer : Option Body} {msg : Body}
    (h : parseAndVerify crypto w now bridgeId vaa answer = some msg)
    (hbridge : bridgeId = w.tokenBridgeId.val) : msg.sequence < 2 ^ 64 := by
  rw [parseAndVerify, if_pos hbridge, Governance.parseAndVerifyVAA] at h
  obtain ⟨_, -, hparse⟩ := Option.bind_eq_some_iff.mp h
  exact parseBody_sequence_lt hparse

/-- The call of `verifyVAA` in a transaction. -/
theorem Replayed.of_verifyVAA {s s' : TokenBridgeForChain.State} {msg : Body}
    {vaa payload : ByteVec} {answer : Option Body}
    (hmsg : parseAndVerify crypto w now s.localTokenBridgeId vaa answer = some msg)
    (h : TokenBridgeForChain.verifyVAA distance s msg = some (s', payload)) :
    Replayed distance w s s' msg := by
  obtain ⟨hchain, haddress, hwindow, -⟩ := verifyVAA_eq_some.mp h
  exact ⟨hchain, haddress, parseAndVerify_lt hmsg, hwindow⟩

theorem createWrapper_eq_some {caller : ContractId} {tokenBridgeId tokenContractId : ByteVec}
    {localChainId remoteChainId : Nat} {isLocalToken : Bool} {decimals : Nat} {symbol name : ByteVec}
    {s : TokenWrapper.State}
    (h : TokenWrapperFactory.createWrapper caller tokenBridgeId localChainId remoteChainId
      tokenContractId isLocalToken decimals symbol name = some s) :
    s.tokenBridgeForChainId = caller.val ∧ s.tokenBridgeId = tokenBridgeId ∧
      s.remoteChainId = remoteChainId ∧ s.tokenContractId = tokenContractId ∧
      s.localChainId = localChainId ∧ s.isLocalToken = isLocalToken := by
  simp only [TokenWrapperFactory.createWrapper, Option.bind_eq_bind, Option.bind_eq_some_iff,
    Option.pure_def, Option.some_inj] at h
  obtain ⟨_, -, rfl⟩ := h
  exact ⟨rfl, rfl, rfl, rfl, rfl, rfl⟩

theorem addWrapper_eq_some {s : TokenWrapper.State} {new : ContractId} :
    addWrapper w s new = some w' ↔ w.contracts new = none ∧
      w' = (w.set new (.tokenWrapper s)).record (.tokenWrapperCreated new) := by
  simp only [addWrapper, Option.bind_eq_bind, Option.bind_eq_some_iff, assert_eq_some,
    Option.pure_def, Option.some_inj, exists_const, eq_comm (a := w')]

/-- Writing back what is there. -/
theorem World.set_self {id : ContractId} {c : Contract} (h : w.contracts id = some c) :
    w.set id c = w := by
  rw [World.set, ← h, Function.update_eq_self]

theorem parseAttestToken_eq_some {s s' : TokenBridgeForChain.State} {msg : Body} {id : ByteVec}
    {token : TokenInfo}
    (h : TokenBridgeForChain.parseAttestToken distance s msg = some (s', id, token)) :
    TokenBridgeForChain.verifyVAA distance s msg = some (s', msg.payload) ∧
      byteVecSlice msg.payload 1 33 = some id := by
  simp only [TokenBridgeForChain.parseAttestToken, Option.bind_eq_bind, Option.bind_eq_some_iff,
    Option.pure_def, Option.some_inj] at h
  obtain ⟨⟨s₁, payload⟩, hverify, _, -, _, -, id₁, hid, _, -, _, -, _, -, _, -, _, -, _, -, _, -, _, -,
    heq⟩ := h
  obtain ⟨rfl, rfl, -⟩ : s₁ = s' ∧ id₁ = id ∧ _ := by simpa using heq
  obtain ⟨-, -, -, rfl⟩ := verifyVAA_eq_some.mp hverify
  exact ⟨hverify, hid⟩

theorem parseTransfer_eq_some {s s' : TokenBridgeForChain.State} {msg : Body}
    {transfer : TokenBridgeForChain.Transfer}
    (h : TokenBridgeForChain.parseTransfer distance s msg = some (s', transfer)) :
    TokenBridgeForChain.verifyVAA distance s msg = some (s', msg.payload) := by
  simp only [TokenBridgeForChain.parseTransfer, Option.bind_eq_bind, Option.bind_eq_some_iff,
    Option.pure_def, Option.some_inj] at h
  obtain ⟨⟨s₁, payload⟩, hverify, _, -, _, -, _, -, _, -, _, -, _, -, _, -, _, -, _, -, _, -, _, -, _,
    -, _, -, _, -, heq⟩ := h
  obtain ⟨rfl, -⟩ : s₁ = s' ∧ _ := by simpa using heq
  obtain ⟨-, -, -, rfl⟩ := verifyVAA_eq_some.mp hverify
  exact hverify

theorem createWrapperForLocalToken_effect {bridge new : ContractId} {tokenId : ByteVec}
    {token : TokenInfo}
    (h : createWrapperForLocalToken w bridge tokenId token new = some w') :
    Effect crypto distance w ⟨now, .createWrapperForLocalToken bridge tokenId token new⟩ w' := by
  simp only [createWrapperForLocalToken, TokenBridgeForChain.createWrapperForLocalToken,
    Option.bind_eq_bind, Option.bind_eq_some_iff, addWrapper_eq_some, contractId?_eq_some] at h
  obtain ⟨b, hb, s, ⟨token', htoken, hs⟩, hnew, rfl⟩ := h
  obtain ⟨hself, hbridge, hchain, hid, -, -⟩ := createWrapper_eq_some hs
  have hlength : s.tokenContractId.length = 32 := by
    rw [hid, ← htoken]
    exact token'.property
  have heffect : Effect crypto distance w
      ⟨now, .createWrapperForLocalToken bridge tokenId token new⟩ _ :=
    .wrapFor bridge new b b s (by rw [hid]; rfl) hb (.inl rfl) ⟨hself, hbridge, hchain, hlength⟩ hnew
  rwa [World.set_self (World.bridgeAt_eq_some.mp hb)] at heffect

theorem createWrapperForRemoteToken_effect {bridge new : ContractId} {vaa : ByteVec}
    {answer : Option Body}
    (h : createWrapperForRemoteToken crypto distance w now bridge vaa answer new = some w') :
    Effect crypto distance w ⟨now, .createWrapperForRemoteToken bridge vaa answer new⟩ w' := by
  simp only [createWrapperForRemoteToken, TokenBridgeForChain.createWrapperForRemoteToken,
    Option.bind_eq_bind, Option.bind_eq_some_iff, addWrapper_eq_some, Option.pure_def,
    Option.some_inj] at h
  obtain ⟨b, hb, msg, hmsg, _, ⟨⟨b', id, token⟩, hattest, s, hs, rfl⟩, hnew, rfl⟩ := h
  obtain ⟨hverify, hslice⟩ := parseAttestToken_eq_some hattest
  obtain ⟨hself, hbridge, hchain, rfl, -, -⟩ := createWrapper_eq_some hs
  have hreplayed := Replayed.of_verifyVAA hmsg hverify
  obtain ⟨replay, -, rfl⟩ := hreplayed.window
  -- the bridge is not the new contract: its id is taken
  have hne : new ≠ bridge := by
    rintro rfl
    simp at hnew
  refine .wrapFor bridge new b _ s ?_ hb (.inr ⟨msg, hreplayed⟩)
    ⟨hself, hbridge, hchain, slice?_length hslice⟩ ?_
  · simp [wrapRequest, hb, hmsg, hslice]
  · rwa [World.set_contracts_of_ne hne] at hnew

theorem completeTransfer_effect {wrapper : ContractId} {vaa : ByteVec} {answer : Option Body}
    (h : completeTransfer crypto distance w now wrapper vaa answer = some w') :
    Effect crypto distance w ⟨now, .completeTransfer wrapper vaa answer⟩ w' := by
  simp only [completeTransfer, Option.bind_eq_bind, Option.bind_eq_some_iff, Option.pure_def,
    Option.some_inj] at h
  obtain ⟨s, -, bridge, -, b, hb, msg, hmsg, ⟨b', transfer⟩, hparse, _, -, rfl⟩ := h
  exact .complete bridge b b' msg hb (.of_verifyVAA hmsg (parseTransfer_eq_some hparse))

/-- **Every accepted call has one of these effects.** -/
theorem step_effect {tx : Tx} (h : step crypto distance w tx = some w') :
    Effect crypto distance w tx w' := by
  obtain ⟨now, call⟩ := tx
  cases call with
  | updateGuardianSet vaa =>
    simp only [step, Option.bind_eq_bind, Option.bind_eq_some_iff, Option.pure_def,
      Option.some_inj] at h
    obtain ⟨governance, -, rfl⟩ := h
    exact .governance governance
  | setMessageFee vaa =>
    simp only [step, Option.bind_eq_bind, Option.bind_eq_some_iff, Option.pure_def,
      Option.some_inj] at h
    obtain ⟨governance, -, rfl⟩ := h
    exact .governance governance
  | submitTransferFee vaa =>
    simp only [step, Option.bind_eq_bind, Option.bind_eq_some_iff, Option.pure_def,
      Option.some_inj] at h
    obtain ⟨⟨governance, _⟩, -, rfl⟩ := h
    exact .governance governance
  | publishMessage caller sequence nonce payload consistencyLevel =>
    simp only [step, Option.bind_eq_bind, Option.bind_eq_some_iff, Option.pure_def,
      Option.some_inj] at h
    obtain ⟨_, hcaller, rfl⟩ := h
    exact .publish caller sequence nonce payload consistencyLevel rfl (assert_eq_some.mp hcaller)
  | registerChain vaa new =>
    simp only [step, registerChain, Option.bind_eq_bind, Option.bind_eq_some_iff, assert_eq_some,
      Option.pure_def, Option.some_inj] at h
    obtain ⟨msg, hmsg, ⟨tokenBridge, s⟩, hregister, _, hnew, rfl⟩ := h
    exact .register vaa new msg tokenBridge s rfl hmsg hregister hnew
  | attestToken tokenId token nonce consistencyLevel =>
    simp only [step, Option.bind_eq_bind, Option.bind_eq_some_iff, Option.pure_def,
      Option.some_inj] at h
    obtain ⟨⟨tokenBridge, message⟩, hattest, rfl⟩ := h
    exact .attest tokenId token nonce consistencyLevel tokenBridge message hattest
  | createWrapperForLocalToken bridge tokenId token new =>
    exact createWrapperForLocalToken_effect h
  | createWrapperForRemoteToken bridge vaa answer new => exact createWrapperForRemoteToken_effect h
  | createWrapper caller tokenBridgeId localChainId remoteChainId tokenContractId isLocalToken token
      new =>
    simp only [step, createWrapper, Option.bind_eq_bind, Option.bind_eq_some_iff, assert_eq_some,
      addWrapper_eq_some] at h
    obtain ⟨_, hcaller, s, hs, hnew, rfl⟩ := h
    obtain ⟨hself, -, -, hid, -, -⟩ := createWrapper_eq_some hs
    exact .wrapOther caller new s (by rw [hid]; rfl) hcaller hself hnew
  | transfer wrapper toAddress amount arbiterFee nonce consistencyLevel =>
    simp only [step, transfer, Option.bind_eq_bind, Option.bind_eq_some_iff, assert_eq_some,
      Option.pure_def, Option.some_inj] at h
    obtain ⟨s, hs, data, hdata, _, hbridge, ⟨tokenBridge, message⟩, hpublish, rfl⟩ := h
    exact .transfer wrapper toAddress amount arbiterFee nonce consistencyLevel s data tokenBridge
      message rfl hs hdata hbridge hpublish
  | completeTransfer wrapper vaa answer => exact completeTransfer_effect h
  | deploy c new =>
    simp only [step, Option.bind_eq_bind, Option.bind_eq_some_iff, Option.pure_def,
      Option.some_inj] at h
    obtain ⟨_, hdeploy, rfl⟩ := h
    obtain ⟨hnew, hc⟩ := assert_eq_some.mp hdeploy
    exact .deploy c new hnew hc

/-! ## What no call can do -/

theorem Replayed.frame {s s' : TokenBridgeForChain.State} {msg : Body}
    (h : Replayed distance w s s' msg) : ∃ replay, s' = { s with replay } := by
  obtain ⟨replay, -, rfl⟩ := h.window
  exact ⟨replay, rfl⟩

/-- A `TokenBridgeForChain` stays, and changes its replay window at most. -/
theorem Effect.bridgeAt {tx : Tx} (h : Effect crypto distance w tx w') {id : ContractId}
    {s : TokenBridgeForChain.State} (hs : w.bridgeAt id = some s) :
    ∃ replay, w'.bridgeAt id = some { s with replay } := by
  -- writing back the bridge that has verified a VAA
  have hreplay : ∀ bridge b b', w.bridgeAt bridge = some b → (∃ replay, b' = { b with replay }) →
      ∃ replay, (w.set bridge (.tokenBridgeForChain b')).bridgeAt id = some { s with replay } := by
    rintro bridge b _ hb ⟨replay, rfl⟩
    by_cases hid : id = bridge
    · subst hid
      obtain rfl : b = s := Option.some.inj (hb.symm.trans hs)
      exact ⟨replay, World.bridgeAt_set_self ..⟩
    · exact ⟨s.replay, by rw [World.bridgeAt_set_of_ne hid, hs]⟩
  cases h with
  | governance | publish | attest | transfer => exact ⟨s.replay, hs⟩
  | register vaa new msg tokenBridge b hcall hmsg hregister hnew =>
    exact ⟨s.replay, (World.bridgeAt_set_of_ne (World.ne_of_bridgeAt hs hnew) _ _).trans hs⟩
  | wrapFor bridge new b b' wrapper hrequest hb hb' hwrapper hnew =>
    obtain ⟨replay, hset⟩ := hreplay bridge b b' hb
      (hb'.elim (fun h => ⟨b.replay, h⟩) fun ⟨_, h⟩ => h.frame)
    exact ⟨replay, (World.bridgeAt_set_of_ne (World.ne_of_bridgeAt hs hnew) _ _).trans hset⟩
  | wrapOther caller new wrapper hrequest hcaller hwrapper hnew =>
    exact ⟨s.replay, (World.bridgeAt_set_of_ne (World.ne_of_bridgeAt hs hnew) _ _).trans hs⟩
  | complete bridge b b' msg hb hb' => exact hreplay bridge b b' hb hb'.frame
  | deploy c new hnew hc =>
    exact ⟨s.replay, (World.bridgeAt_set_of_ne (World.ne_of_bridgeAt hs hnew) _ _).trans hs⟩

/-- An id that is not a `TokenBridgeForChain` is not the bridge written back. -/
theorem contracts_set_bridge {bridge id : ContractId} {b b' : TokenBridgeForChain.State}
    (hb : w.bridgeAt bridge = some b) {c : Contract} (hc : w.contracts id = some c)
    (hbridge : ∀ s, c ≠ .tokenBridgeForChain s) :
    (w.set bridge (.tokenBridgeForChain b')).contracts id = some c := by
  have hid : id ≠ bridge := by
    rintro rfl
    rw [World.bridgeAt_eq_some, hc] at hb
    exact hbridge b (Option.some.inj hb)
  rw [World.set_contracts_of_ne hid, hc]

/-- Any other contract stays as it is. -/
theorem Effect.contracts {tx : Tx} (h : Effect crypto distance w tx w') {id : ContractId}
    {c : Contract} (hc : w.contracts id = some c) (hbridge : ∀ s, c ≠ .tokenBridgeForChain s) :
    w'.contracts id = some c := by
  have hne : ∀ new, w.contracts new = none → id ≠ new := by
    rintro new hnew rfl
    rw [hnew] at hc
    cases hc
  cases h with
  | governance | publish | attest | transfer => exact hc
  | register vaa new msg tokenBridge b hcall hmsg hregister hnew =>
    exact (World.set_contracts_of_ne (hne new hnew) _ _).trans hc
  | wrapFor bridge new b b' wrapper hrequest hb hb' hwrapper hnew =>
    exact (World.set_contracts_of_ne (hne new hnew) _ _).trans (contracts_set_bridge hb hc hbridge)
  | wrapOther caller new wrapper hrequest hcaller hwrapper hnew =>
    exact (World.set_contracts_of_ne (hne new hnew) _ _).trans hc
  | complete bridge b b' msg hb hb' => exact contracts_set_bridge hb hc hbridge
  | deploy c' new hnew hc' => exact (World.set_contracts_of_ne (hne new hnew) _ _).trans hc

/-- A `TokenWrapper` never changes. -/
theorem Effect.wrapperAt {tx : Tx} (h : Effect crypto distance w tx w') {id : ContractId}
    {s : TokenWrapper.State} (hs : w.wrapperAt id = some s) : w'.wrapperAt id = some s :=
  World.wrapperAt_eq_some.mpr (h.contracts (World.wrapperAt_eq_some.mp hs) (by simp))

theorem Effect.contracts_ne_none {tx : Tx} (h : Effect crypto distance w tx w') {id : ContractId}
    (hid : w.contracts id ≠ none) : w'.contracts id ≠ none := by
  obtain ⟨c, hc⟩ := Option.ne_none_iff_exists'.mp hid
  cases c with
  | tokenBridgeForChain s =>
    obtain ⟨replay, hs⟩ := h.bridgeAt (World.bridgeAt_eq_some.mpr hc)
    rw [World.bridgeAt_eq_some.mp hs]
    simp
  | deployed | tokenWrapper | other =>
    rw [h.contracts hc (by simp)]
    simp

/-- A contract does not turn into a `TokenBridgeForChain`. -/
theorem Effect.isSome_bridgeAt {tx : Tx} (h : Effect crypto distance w tx w') {id : ContractId}
    (hid : (w'.bridgeAt id).isSome) : (w.bridgeAt id).isSome ∨ w.contracts id = none := by
  obtain ⟨s', hs'⟩ := Option.isSome_iff_exists.mp hid
  cases hc : w.contracts id with
  | none => exact .inr rfl
  | some c =>
    cases c with
    | tokenBridgeForChain s => exact .inl (by rw [World.bridgeAt_eq_some.mpr hc, Option.isSome_some])
    | deployed | tokenWrapper | other =>
      rw [World.bridgeAt_eq_some, h.contracts hc (by simp)] at hs'
      simp at hs'

/-- The call that asks for the wrapper `s`: its caller is baked into the wrapper. -/
structure WrappedBy (crypto : Crypto) (w : World) (tx : Tx) (s : TokenWrapper.State)
    (caller : ContractId) : Prop where
  request : wrapRequest crypto w tx = some (caller, s.tokenContractId)
  baked : s.tokenBridgeForChainId = caller.val
  origin : w.contracts caller = some .other ∨ ∃ b, w.bridgeAt caller = some b ∧
    s.tokenBridgeId = b.localTokenBridgeId ∧ s.remoteChainId = b.remoteChainId ∧
    s.tokenContractId.length = 32

/-- A call creates at most one wrapper, for its caller. -/
theorem Effect.wrapped {tx : Tx} (h : Effect crypto distance w tx w') :
    ∃ new, ∀ id, w'.Wrapped id → w.Wrapped id ∨ id = new ∧ w.contracts id = none ∧
      ∃ s caller, w'.wrapperAt id = some s ∧ WrappedBy crypto w tx s caller := by
  have hsame : w'.log = w.log ∨ (∃ e, w'.log = w.log ++ [e] ∧ ∀ id, e ≠ .tokenWrapperCreated id) →
      ∀ id, w'.Wrapped id → w.Wrapped id := by
    rintro (hlog | ⟨e, hlog, he⟩) id hid
    · rwa [World.Wrapped, hlog] at hid
    · rw [World.Wrapped, hlog, List.mem_append, List.mem_singleton] at hid
      exact hid.resolve_right (he id).symm
  cases h with
  | governance | deploy =>
    exact ⟨w.tokenBridgeId, fun id hid => .inl (hsame (.inl rfl) id hid)⟩
  | publish | attest | transfer | complete | register =>
    exact ⟨w.tokenBridgeId, fun id hid => .inl (hsame (.inr ⟨_, rfl, by simp⟩) id hid)⟩
  | wrapFor bridge new b b' s hrequest hb hb' hs hnew =>
    refine ⟨new, fun id hid => ?_⟩
    have hmem : w.Wrapped id ∨ id = new := by simpa [World.Wrapped] using hid
    obtain ⟨hself, hbridge, hchain, hlength⟩ := hs
    exact hmem.imp_right fun hid => ⟨hid, hid ▸ hnew, s, bridge,
      hid ▸ World.wrapperAt_set_self .., hrequest, hself, .inr ⟨b, hb, hbridge, hchain, hlength⟩⟩
  | wrapOther caller new s hrequest hcaller hs hnew =>
    refine ⟨new, fun id hid => ?_⟩
    have hmem : w.Wrapped id ∨ id = new := by simpa [World.Wrapped] using hid
    exact hmem.imp_right fun hid => ⟨hid, hid ▸ hnew, s, caller,
      hid ▸ World.wrapperAt_set_self .., hrequest, hs, .inl hcaller⟩

end Effect

end Step

/-! ## Inputs -/

theorem sampleId_length (b : UInt8) : (List.replicate 32 b).length = 32 := List.length_replicate

/-- A contract id that repeats one byte. -/
def sampleId (b : UInt8) : ContractId := ⟨List.replicate 32 b, sampleId_length b⟩

/-- The token bridge as deployed on chain 13, and one contract of somebody else. -/
def freshWorld : World where
  governanceId := sampleId 0xa0
  tokenBridgeId := sampleId 0xa1
  tokenWrapperFactoryId := sampleId 0xa2
  governance := Governance.oneGuardian
  tokenBridge := {
    governanceChainId := 1
    governanceContractId := List.replicate 32 0x04
    replay := Sequence.State.init
    localChainId := 13
    sequence := 0 }
  contracts := fun id =>
    if id ∈ [sampleId 0xa0, sampleId 0xa1, sampleId 0xa2] then some .deployed
    else if id = sampleId 0xee then some .other
    else none
  log := []

theorem freshWorld_fresh : freshWorld.Fresh where
  contracts := fun id => by
    simp only [freshWorld]
    split
    · exact .inr (.inl rfl)
    · split
      · exact .inr (.inr rfl)
      · exact .inl rfl
  governance := by decide +kernel
  tokenBridge := by decide +kernel
  tokenWrapperFactory := by decide +kernel
  log := rfl

/-- A VAA signed by the one guardian. -/
def sampleVaa (emitterChain : Nat) (emitterAddress : ByteVec) (sequence : Nat) (payload : ByteVec) :
    ByteVec :=
  [0x01, 0x00, 0x00, 0x00, 0x00, 0x01] ++ (0x00 :: List.replicate 65 0x07) ++
    List.replicate 8 0x00 ++ beBytes 2 emitterChain ++ emitterAddress ++ beBytes 8 sequence ++
    [0x00] ++ payload

/-- Governance registers the token bridge of a chain. -/
def registerVaa (sequence remoteChainId : Nat) : ByteVec :=
  sampleVaa 1 (List.replicate 32 0x04) sequence
    (TokenBridge.tokenBridgeModule ++ [0x01] ++ beBytes 2 13 ++ beBytes 2 remoteChainId ++
      List.replicate 32 0x05)

/-- That token bridge sends a transfer of the token `tokenId` of chain 13. -/
def transferVaa (sequence emitterChain : Nat) (tokenId : ContractId) : ByteVec :=
  sampleVaa emitterChain (List.replicate 32 0x05) sequence
    ([0x01] ++ beBytes 32 1 ++ tokenId.val ++ beBytes 2 13 ++ List.replicate 32 0x06 ++ beBytes 2 13 ++
      beBytes 32 0)

/-- It attests a token of its own chain. -/
def attestVaa (sequence emitterChain : Nat) (tokenId : ContractId) : ByteVec :=
  sampleVaa emitterChain (List.replicate 32 0x05) sequence
    ([0x02] ++ tokenId.val ++ beBytes 2 emitterChain ++ [0x08] ++ List.replicate 64 0x54)

def sampleToken : TokenInfo where
  decimals := 8
  symbol := List.replicate 32 0x53
  name := List.replicate 32 0x54

/-- The world after some calls, all in one block. -/
def worldAfter (calls : List Call) : World :=
  attempts (step Governance.Crypto.sample 64) freshWorld (calls.map (Tx.mk 5))

/-- One more call, which meets the side condition. -/
theorem run_worldAfter {ok : World → Tx → Prop} (calls : List Call)
    (h : Run (step Governance.Crypto.sample 64) ok freshWorld (worldAfter calls)) (call : Call)
    (hok : ok (worldAfter calls) ⟨5, call⟩) :
    Run (step Governance.Crypto.sample 64) ok freshWorld (worldAfter (calls ++ [call])) := by
  rw [worldAfter, List.map_append, List.map_singleton, attempts_concat]
  exact h.attempt _ hok

end Wormhole.Alephium
