/-
# Wormhole.Guardian.Validator — what the node makes of the events of the Alephium contracts.

The validator goroutine (`node/pkg/alephium/validation.go`) with its store (`db.go`) and the two
queries it makes to the full node (`client.go`).  It handles the batches of confirmed events that the
watcher hands over, one `round` of its loop for each: messages of the governance contract are
published unless they are transfers from a contract other than the recorded one, contract creations
are recorded, and the height below which everything has been handled moves on.

The loop ends at the first error and the node at the first panic: `rounds` returns only if neither
happens.  Writing to the store is taken not to fail.  `rounds_isOk_iff` says which events do no harm.
-/
import Mathlib
import Wormhole.Lib.Bytes
import Wormhole.Lib.Go
import Wormhole.Lib.Mapping
import Wormhole.Alephium.TokenBridge
import Wormhole.Guardian.Vaa
import Wormhole.Guardian.AlephiumEvent

namespace Wormhole.Guardian.Alephium

open Wormhole.Lib Wormhole.Lib.Bytes

/-! ## The store -/

/-- The contents of the store. -/
abbrev Db := List UInt8 → Option (List UInt8)

/-- "token-wrapper" -/
def tokenWrapperPrefix : List UInt8 :=
  [0x74, 0x6f, 0x6b, 0x65, 0x6e, 0x2d, 0x77, 0x72, 0x61, 0x70, 0x70, 0x65, 0x72]

/-- "token-bridge-for-chain" -/
def chainPrefix : List UInt8 :=
  [0x74, 0x6f, 0x6b, 0x65, 0x6e, 0x2d, 0x62, 0x72, 0x69, 0x64, 0x67, 0x65, 0x2d, 0x66, 0x6f, 0x72,
    0x2d, 0x63, 0x68, 0x61, 0x69, 0x6e]

/-- "last-block-height" -/
def lastBlockHeightKey : List UInt8 :=
  [0x6c, 0x61, 0x73, 0x74, 0x2d, 0x62, 0x6c, 0x6f, 0x63, 0x6b, 0x2d, 0x68, 0x65, 0x69, 0x67, 0x68,
    0x74]

def tokenWrapperKey (tokenId : Byte32) : List UInt8 := tokenWrapperPrefix ++ tokenId.val

def chainKey (chainId : UInt16) : List UInt8 := chainPrefix ++ beBytes 2 chainId.toNat

/-- Keys and values to be written, in order. -/
abbrev Batch := List (List UInt8 × List UInt8)

def Batch.writeChain (b : Batch) (chainId : UInt16) (contractAddress : ContractAddress) : Batch :=
  b ++ [(chainKey chainId, contractAddress)]

def Batch.writeTokenWrapper (b : Batch) (tokenId : Byte32) (wrapperAddress : ContractAddress) : Batch :=
  b ++ [(tokenWrapperKey tokenId, wrapperAddress)]

def Batch.updateHeight (b : Batch) (height : Nat) : Batch :=
  b ++ [(lastBlockHeightKey, beBytes 4 height)]

def writeBatch (db : Db) (b : Batch) : Db :=
  b.foldl (fun db (key, value) => Function.update db key (some value)) db

/-! ## The full node -/

/-- `Client.GetContractState`: the answer of the full node about the contract at an address. -/
abbrev Client := ContractAddress → Go ContractState

def getTokenBridgeForChainInfo (client : Client) (event : Event) : Go (UInt16 × ContractAddress) := do
  assume (event.fields.length = 1)
  let tokenBridgeForChainAddress ← (← fieldAt event.fields 0).toAddress
  let contractState ← client tokenBridgeForChainAddress
  assume (contractState.address = tokenBridgeForChainAddress)
  let remoteChainId ← (← fieldAt contractState.fields 2).toUint16
  return (remoteChainId, tokenBridgeForChainAddress)

def getTokenWrapperInfo (client : Client) (event : Event) : Go (Byte32 × ContractAddress) := do
  assume (event.fields.length = 1)
  let tokenWrapperAddress ← (← fieldAt event.fields 0).toAddress
  let contractState ← client tokenWrapperAddress
  assume (contractState.address = tokenWrapperAddress)
  let remoteTokenId ← (← fieldAt contractState.fields 4).toByte32
  return (remoteTokenId, tokenWrapperAddress)

/-! ## The validator -/

/-- The validator and the local variables of its loop. -/
structure Validator where
  governanceContract : ContractAddress
  tokenBridgeContract : ContractAddress
  tokenWrapperFactoryContract : ContractAddress
  remoteChainCache : UInt16 → Option Byte32
  tokenWrapperCache : Byte32 → Option Byte32
  db : Db
  /-- what has been sent to `msgC` -/
  published : List MessagePublication
  fromHeight : Nat
  blocks : Nat → Option Bool

/-- `getRemoteChain`: the contract id or the error it returns. -/
def getRemoteChain (v : Validator) (chainId : UInt16) : Go (Validator × Except String Byte32) :=
  match v.remoteChainCache chainId with
  | some contractId => .ok (v, .ok contractId)
  | none =>
    match v.db (chainKey chainId) with
    | none => .ok (v, .error "Key not found")
    | some contractAddress => do
      let contractId ← toContractId contractAddress
      let remoteChainCache := Function.update v.remoteChainCache chainId (some contractId)
      return ({ v with remoteChainCache }, .ok contractId)

def getTokenWrapper (v : Validator) (tokenId : Byte32) : Go (Validator × Except String Byte32) :=
  match v.tokenWrapperCache tokenId with
  | some contractId => .ok (v, .ok contractId)
  | none =>
    match v.db (tokenWrapperKey tokenId) with
    | none => .ok (v, .error "Key not found")
    | some contractAddress => do
      let contractId ← toContractId contractAddress
      let tokenWrapperCache := Function.update v.tokenWrapperCache tokenId (some contractId)
      return ({ v with tokenWrapperCache }, .ok contractId)

/-- The contract that a transfer message should come from. -/
def expectedSender (v : Validator) (transferMsg : TransferMessage) :
    Go (Validator × Except String Byte32) :=
  if transferMsg.isNativeToken then getRemoteChain v transferMsg.toChainId
  else getTokenWrapper v transferMsg.tokenId

/-- `validateTransferMessage`: an error means that the message is dropped. -/
def validateTransferMessage (v : Validator) (transferMsg : TransferMessage) :
    Go (Validator × Except String Unit) := do
  let (v, contractId) ← expectedSender v transferMsg
  match contractId with
  | .error reason => return (v, .error reason)
  | .ok contractId =>
    if contractId = transferMsg.senderId then return (v, .ok ())
    else return (v, .error "invalid sender")

/-- `v.msgC <- wormholeMsg.toMessagePublication(header)`. -/
def publish (v : Validator) (wormholeMsg : WormholeMessage) (header : BlockHeader) : Go Validator := do
  let message ← wormholeMsg.toMessagePublication header
  return { v with published := v.published ++ [message] }

def handleGovernanceEvent (v : Validator) (event : Event) (header : BlockHeader) : Go Validator := do
  let wormholeMsg ← wormholeMessageFromEvent event
  if (← wormholeMsg.isTransferMessage) then
    let transferMsg ← transferMessageFromBytes wormholeMsg.payload
    let (v, result) ← validateTransferMessage v transferMsg
    match result with
    | .error _ => return v -- invalid wormhole message, just ignore
    | .ok _ => publish v wormholeMsg header
  else
    -- we only need to validate transfer message
    publish v wormholeMsg header

def handleTokenBridgeEvent (client : Client) (event : Event) (batch : Batch) : Go Batch := do
  let (remoteChainId, tokenBridgeForChainAddress) ← getTokenBridgeForChainInfo client event
  return batch.writeChain remoteChainId tokenBridgeForChainAddress

def handleTokenWrapperFactoryEvent (client : Client) (event : Event) (batch : Batch) : Go Batch := do
  let (remoteTokenId, tokenWrapperAddress) ← getTokenWrapperInfo client event
  return batch.writeTokenWrapper remoteTokenId tokenWrapperAddress

/-- The switch over the contract of an event. -/
def handleEvent (client : Client) (header : BlockHeader) (st : Validator × Batch) (event : Event) :
    Go (Validator × Batch) := do
  let (v, batch) := st
  if event.contractAddress = v.governanceContract then
    let v ← handleGovernanceEvent v event header
    return (v, batch)
  else if event.contractAddress = v.tokenBridgeContract then
    let batch ← handleTokenBridgeEvent client event batch
    return (v, batch)
  else if event.contractAddress = v.tokenWrapperFactoryContract then
    let batch ← handleTokenWrapperFactoryEvent client event batch
    return (v, batch)
  else return (v, batch)

def handleEvents (client : Client) (header : BlockHeader) :
    List Event → Validator × Batch → Go (Validator × Batch)
  | [], st => .ok st
  | event :: events, st => do
    let st ← handleEvent client header st event
    handleEvents client header events st

/-! ## The processed height -/

def MaxForkHeight : Nat := 100

/-- The loop over `n` heights from `h` on: the finished ones are deleted, up to the first that is not
finished.  The second component tells whether the loop has got to its end. -/
def drain (blocks : Nat → Option Bool) (h : Nat) : Nat → (Nat → Option Bool) × Bool
  | 0 => (blocks, true)
  | n + 1 =>
    if blocks h = some true then drain (Function.update blocks h none) (h + 1) n
    else (blocks, false)

/-- `for h := fromHeight; h <= height; h++`.  With the largest `uint32` for `height`, the counter goes on
from 0 and the loop ends at a deleted height at the latest. -/
def drainTo (blocks : Nat → Option Bool) (fromHeight height : Nat) : (Nat → Option Bool) × Bool :=
  let (blocks, done) := drain blocks fromHeight (height + 1 - fromHeight)
  if done ∧ height = 2 ^ 32 - 1 then ((drain blocks 0 fromHeight).1, false) else (blocks, done)

def updateProcessedHeight (v : Validator) (height : Nat) (batch : Batch) : Validator × Batch :=
  if height < v.fromHeight then
    -- fork happend
    ({ v with fromHeight := height }, batch)
  else
    let (blocks, done) := drainTo v.blocks v.fromHeight height
    if done then
      ({ v with blocks, fromHeight := height + 1 }, batch.updateHeight (height - MaxForkHeight))
    else ({ v with blocks }, batch)

structure ConfirmedMessages where
  blockHeader : BlockHeader
  messages : List Event
  finished : Bool
  reObserved : Bool

/-- The bookkeeping after the messages of a batch. -/
def finishRound (v : Validator) (confirmed : ConfirmedMessages) (batch : Batch) : Validator :=
  if confirmed.reObserved then { v with db := writeBatch v.db batch }
  else
    let v := { v with
      blocks := Function.update v.blocks confirmed.blockHeader.height (some confirmed.finished) }
    let (v, batch) := if confirmed.finished then
        updateProcessedHeight v confirmed.blockHeader.height batch
      else (v, batch)
    { v with db := writeBatch v.db batch }

/-- One round of `run`. -/
def round (client : Client) (v : Validator) (confirmed : ConfirmedMessages) : Go Validator := do
  let (v, batch) ← handleEvents client confirmed.blockHeader confirmed.messages (v, [])
  return finishRound v confirmed batch

/-- `run`, on the batches it receives. -/
def rounds (client : Client) : List ConfirmedMessages → Validator → Go Validator
  | [], v => .ok v
  | confirmed :: rest, v => do
    let v ← round client v confirmed
    rounds client rest v

/-! ## What the chain emits -/

open Wormhole.Alephium in
/-- A message of the governance contract, or the creation of a contract by one of the other two.  `SequenceRemoved` is
left out, which the governance contract and the token bridge emit when their replay window drops a number that it has
never seen: its single number is neither a message nor a creation, and the validator panics on it. -/
inductive ChainEvent where
  | message (m : Governance.WormholeMessage)
  | tokenBridgeForChainCreated (id : Byte32) (s : TokenBridgeForChain.State)
  | tokenWrapperCreated (id : Byte32) (s : TokenWrapper.State)

/-- The address of a contract: type byte 3 and the contract id. -/
def contractAddress (id : Byte32) : ContractAddress := 0x03 :: id.val

open Wormhole.Alephium in
/-- The fields of a `TokenBridgeForChain`, in the order of its declaration. -/
def tokenBridgeForChainFields (s : TokenBridgeForChain.State) : List Field :=
  [.U256 s.localChainId, .ByteVec s.localTokenBridgeId, .U256 s.remoteChainId,
    .ByteVec s.remoteTokenBridgeId, .U256 s.replay.next, .U256 s.replay.next1, .U256 s.replay.next2,
    .ByteVec s.replay.undone]

open Wormhole.Alephium in
/-- The fields of a `TokenWrapper`. -/
def tokenWrapperFields (s : TokenWrapper.State) : List Field :=
  [.ByteVec s.tokenBridgeId, .ByteVec s.tokenBridgeForChainId, .U256 s.localChainId,
    .U256 s.remoteChainId, .ByteVec s.tokenContractId, .Bool s.isLocalToken, .U256 s.tokenDecimals,
    .ByteVec s.symbol, .ByteVec s.name]

namespace ChainEvent

/-- The contract that emits the event. -/
def contract (v : Validator) : ChainEvent → ContractAddress
  | .message _ => v.governanceContract
  | .tokenBridgeForChainCreated _ _ => v.tokenBridgeContract
  | .tokenWrapperCreated _ _ => v.tokenWrapperFactoryContract

def fields : ChainEvent → List Field
  | .message m => messageFields m.sender m.sequence m.data m.consistencyLevel
  | .tokenBridgeForChainCreated id _ => [.Address (contractAddress id)]
  | .tokenWrapperCreated id _ => [.Address (contractAddress id)]

/-- `event` is what the full node serves for `e`. -/
def ServedAs (e : ChainEvent) (v : Validator) (event : Event) : Prop :=
  event.contractAddress = e.contract v ∧ event.fields = e.fields

/-- The full node knows the created contract. -/
def Answered (client : Client) : ChainEvent → Prop
  | .message _ => True
  | .tokenBridgeForChainCreated id s => client (contractAddress id) =
      .ok { address := contractAddress id, fields := tokenBridgeForChainFields s }
  | .tokenWrapperCreated id s => client (contractAddress id) =
      .ok { address := contractAddress id, fields := tokenWrapperFields s }

/-- What the event writes to the store. -/
def writes : ChainEvent → Batch
  | .message _ => []
  | .tokenBridgeForChainCreated id s =>
    [(chainKey (UInt16.ofNat s.remoteChainId), contractAddress id)]
  | .tokenWrapperCreated id s =>
    if h : s.tokenContractId.length = 32 then
      [(tokenWrapperKey ⟨s.tokenContractId, h⟩, contractAddress id)]
    else []

/-- **The events that do no harm.** -/
def Harmless : ChainEvent → Prop
  | .message m => m.sequence < 2 ^ 64 ∧ m.consistencyLevel < 255 ∧ 5 ≤ m.data.length ∧
      (m.data[4]? = some 1 → 170 ≤ m.data.length)
  | .tokenBridgeForChainCreated _ s => s.remoteChainId < 65535
  | .tokenWrapperCreated _ s => s.tokenContractId.length = 32

end ChainEvent

/-! ## One event -/

/-- What handling a message leaves alone. -/
structure SameStore (v v' : Validator) : Prop where
  governanceContract : v'.governanceContract = v.governanceContract
  tokenBridgeContract : v'.tokenBridgeContract = v.tokenBridgeContract
  tokenWrapperFactoryContract : v'.tokenWrapperFactoryContract = v.tokenWrapperFactoryContract
  db : v'.db = v.db
  fromHeight : v'.fromHeight = v.fromHeight
  blocks : v'.blocks = v.blocks

theorem SameStore.refl (v : Validator) : SameStore v v := ⟨rfl, rfl, rfl, rfl, rfl, rfl⟩

theorem SameStore.trans {v v' v'' : Validator} (h : SameStore v v') (h' : SameStore v' v'') :
    SameStore v v'' :=
  ⟨h'.1.trans h.1, h'.2.trans h.2, h'.3.trans h.3, h'.4.trans h.4, h'.5.trans h.5, h'.6.trans h.6⟩

/-- The three contracts have addresses of their own. -/
structure Validator.Configured (v : Validator) : Prop where
  governance_tokenBridge : v.governanceContract ≠ v.tokenBridgeContract
  governance_factory : v.governanceContract ≠ v.tokenWrapperFactoryContract
  tokenBridge_factory : v.tokenBridgeContract ≠ v.tokenWrapperFactoryContract

theorem SameStore.configured {v v' : Validator} (h : SameStore v v') (hv : v.Configured) :
    v'.Configured := by
  refine ⟨?_, ?_, ?_⟩ <;>
    simp only [h.governanceContract, h.tokenBridgeContract, h.tokenWrapperFactoryContract]
  · exact hv.governance_tokenBridge
  · exact hv.governance_factory
  · exact hv.tokenBridge_factory

theorem SameStore.servedAs {v v' : Validator} (h : SameStore v v') {e : ChainEvent} {event : Event} :
    e.ServedAs v' event ↔ e.ServedAs v event := by
  have hcontract : e.contract v' = e.contract v := by
    cases e with
    | message m => exact h.governanceContract
    | tokenBridgeForChainCreated id s => exact h.tokenBridgeContract
    | tokenWrapperCreated id s => exact h.tokenWrapperFactoryContract
  rw [ChainEvent.ServedAs, ChainEvent.ServedAs, hcontract]

/-- Every recorded address is one of a contract. -/
def ValidAddresses (db : Db) : Prop :=
  (∀ chainId address, db (chainKey chainId) = some address → address.length = 33) ∧
  ∀ tokenId address, db (tokenWrapperKey tokenId) = some address → address.length = 33

section Event

variable {client : Client} {v : Validator} {header : BlockHeader} {event : Event}

theorem toContractId_of_length {address : ContractAddress} (h : address.length = 33) :
    toContractId address = .ok ⟨address.drop 1, by simp [h]⟩ := dif_pos h

theorem getRemoteChain_eq_ok (hdb : ValidAddresses v.db) (chainId : UInt16) :
    ∃ v' result, getRemoteChain v chainId = .ok (v', result) ∧ SameStore v v' := by
  unfold getRemoteChain
  split
  · exact ⟨v, _, rfl, .refl v⟩
  · split
    · exact ⟨v, _, rfl, .refl v⟩
    · rename_i address haddress
      rw [toContractId_of_length (hdb.1 chainId address haddress), Go.ok_bind]
      exact ⟨_, _, rfl, ⟨rfl, rfl, rfl, rfl, rfl, rfl⟩⟩

theorem getTokenWrapper_eq_ok (hdb : ValidAddresses v.db) (tokenId : Byte32) :
    ∃ v' result, getTokenWrapper v tokenId = .ok (v', result) ∧ SameStore v v' := by
  unfold getTokenWrapper
  split
  · exact ⟨v, _, rfl, .refl v⟩
  · split
    · exact ⟨v, _, rfl, .refl v⟩
    · rename_i address haddress
      rw [toContractId_of_length (hdb.2 tokenId address haddress), Go.ok_bind]
      exact ⟨_, _, rfl, ⟨rfl, rfl, rfl, rfl, rfl, rfl⟩⟩

/-- Validation itself never fails: it accepts or drops. -/
theorem validateTransferMessage_eq_ok (hdb : ValidAddresses v.db) (transferMsg : TransferMessage) :
    ∃ v' result, validateTransferMessage v transferMsg = .ok (v', result) ∧ SameStore v v' := by
  have hsender : ∃ v' result, expectedSender v transferMsg = .ok (v', result) ∧ SameStore v v' := by
    unfold expectedSender
    split
    · exact getRemoteChain_eq_ok hdb _
    · exact getTokenWrapper_eq_ok hdb _
  obtain ⟨v', result, hsender, hsame⟩ := hsender
  rw [validateTransferMessage, hsender, Go.ok_bind]
  cases result with
  | error reason => exact ⟨v', _, rfl, hsame⟩
  | ok contractId =>
    by_cases hid : contractId = transferMsg.senderId
    · exact ⟨v', .ok (), by simp [hid], hsame⟩
    · exact ⟨v', .error "invalid sender", by simp [hid], hsame⟩

/-- A message that is read can be published, a transfer if it is long enough. -/
theorem publish_eq_ok {w : WormholeMessage} {b : UInt8} {rest : List UInt8}
    (hpayload : w.payload = b :: rest) (hlength : b = transferPayloadId → 33 ≤ w.payload.length) :
    ∃ v', publish v w header = .ok v' ∧ SameStore v v' := by
  have htransfer : w.isTransferMessage = .ok (decide (b = transferPayloadId)) := by
    rw [WormholeMessage.isTransferMessage, hpayload]
  have hmessage : ∃ message, w.toMessagePublication header = .ok message := by
    rw [WormholeMessage.toMessagePublication, htransfer, Go.ok_bind]
    by_cases hb : b = transferPayloadId
    · simp [hb, hlength hb]
    · simp [hb]
  obtain ⟨message, hmessage⟩ := hmessage
  rw [publish, hmessage, Go.ok_bind]
  exact ⟨_, rfl, ⟨rfl, rfl, rfl, rfl, rfl, rfl⟩⟩

variable (header) in
/-- **A message of the governance contract**, handled or fatal. -/
theorem handleGovernanceEvent_cases (hdb : ValidAddresses v.db)
    {m : Wormhole.Alephium.Governance.WormholeMessage}
    (hfields : event.fields = (ChainEvent.message m).fields) :
    ((ChainEvent.message m).Harmless ∧
      ∃ v', handleGovernanceEvent v event header = .ok v' ∧ SameStore v v') ∨
    (¬(ChainEvent.message m).Harmless ∧ ¬(handleGovernanceEvent v event header).IsOk) := by
  have hread := fun w => wormholeMessageFromEvent_eq_ok (w := w) hfields
  by_cases hreadable : m.sequence < 2 ^ 64 ∧ m.consistencyLevel < 255 ∧ 4 ≤ m.data.length
  · obtain ⟨hsequence, hlevel, hdata⟩ := hreadable
    obtain ⟨w, hw, hdrop⟩ : ∃ w, wormholeMessageFromEvent event = .ok w ∧
        w.payload = m.data.drop 4 := ⟨_, (hread _).mpr ⟨hsequence, hlevel, hdata, rfl⟩, rfl⟩
    have hlength : w.payload.length = m.data.length - 4 := by rw [hdrop, List.length_drop]
    rw [handleGovernanceEvent, hw, Go.ok_bind]
    -- the byte behind the nonce decides
    cases hpayload : w.payload with
    | nil =>
      rw [hpayload, List.length_nil] at hlength
      refine .inr ⟨fun h => ?_, by simp [WormholeMessage.isTransferMessage, hpayload, outOfRange]⟩
      have := h.2.2.1
      omega
    | cons b rest =>
      have hbyte : m.data[4]? = some b := by
        rw [← List.head?_drop, ← hdrop, hpayload, List.head?_cons]
      have htransfer : w.isTransferMessage = .ok (decide (b = transferPayloadId)) := by
        rw [WormholeMessage.isTransferMessage, hpayload]
      rw [hpayload, List.length_cons] at hlength
      rw [htransfer, Go.ok_bind, ← hpayload]
      by_cases hb : b = transferPayloadId
      · have hhead : w.payload.head? = some 1 := by rw [hpayload, hb]; rfl
        rw [if_pos (decide_eq_true hb)]
        by_cases hlong : 166 ≤ w.payload.length
        · obtain ⟨transferMsg, hmsg⟩ := (transferMessageFromBytes_isOk hhead).mpr hlong
          obtain ⟨v', result, hvalidate, hsame⟩ := validateTransferMessage_eq_ok hdb transferMsg
          rw [hmsg, Go.ok_bind, hvalidate, Go.ok_bind]
          rw [hpayload, List.length_cons] at hlong
          refine .inl ⟨⟨hsequence, hlevel, by omega, fun _ => by omega⟩, ?_⟩
          cases result with
          | error reason => exact ⟨v', rfl, hsame⟩
          | ok _ =>
            have hroom : 33 ≤ w.payload.length := by
              rw [hpayload, List.length_cons]
              omega
            obtain ⟨v'', hpublish, hsame'⟩ := publish_eq_ok hpayload fun _ => hroom
            exact ⟨v'', hpublish, hsame.trans hsame'⟩
        · refine .inr ⟨fun h => hlong ?_, fun h => hlong ?_⟩
          · have := h.2.2.2 (by rw [hbyte, hb]; rfl)
            rw [hpayload, List.length_cons]
            omega
          · obtain ⟨transferMsg, hmsg, -⟩ := Go.isOk_bind.mp h
            exact (transferMessageFromBytes_isOk hhead).mp ⟨transferMsg, hmsg⟩
      · rw [if_neg (by simpa using hb)]
        obtain ⟨v', hpublish, hsame⟩ := publish_eq_ok hpayload fun h => absurd h hb
        refine .inl ⟨⟨hsequence, hlevel, by omega, fun h => ?_⟩, v', hpublish, hsame⟩
        rw [hbyte, Option.some_inj] at h
        exact absurd h hb
  · refine .inr ⟨fun h => hreadable ⟨h.1, h.2.1, ?_⟩, fun h => hreadable ?_⟩
    · have := h.2.2.1
      omega
    · obtain ⟨w, hw, -⟩ := Go.isOk_bind.mp h
      obtain ⟨hsequence, hlevel, hdata, -⟩ := (hread w).mp hw
      exact ⟨hsequence, hlevel, hdata⟩

theorem getTokenBridgeForChainInfo_eq {id : Byte32}
    {s : Wormhole.Alephium.TokenBridgeForChain.State}
    (hfields : event.fields = (ChainEvent.tokenBridgeForChainCreated id s).fields)
    (hclient : (ChainEvent.tokenBridgeForChainCreated id s).Answered client) :
    getTokenBridgeForChainInfo client event = (Field.U256 s.remoteChainId).toUint16 >>=
      fun remoteChainId => .ok (remoteChainId, contractAddress id) := by
  have hfield : fieldAt event.fields 0 = .ok (.Address (contractAddress id)) := by rw [hfields]; rfl
  have hlength : assume (event.fields.length = 1) = .ok () := by
    rw [assume, Go.assume_eq_ok, hfields]
    rfl
  have haddress : assume (contractAddress id = contractAddress id) = .ok () :=
    Go.assume_eq_ok.mpr rfl
  have hchain : fieldAt (tokenBridgeForChainFields s) 2 = .ok (.U256 s.remoteChainId) := rfl
  rw [getTokenBridgeForChainInfo, hlength, hfield, Go.ok_bind, Go.ok_bind, Field.toAddress, Go.ok_bind,
    show client (contractAddress id) = _ from hclient, Go.ok_bind, haddress, Go.ok_bind, hchain,
    Go.ok_bind]
  rfl

theorem getTokenWrapperInfo_eq {id : Byte32} {s : Wormhole.Alephium.TokenWrapper.State}
    (hfields : event.fields = (ChainEvent.tokenWrapperCreated id s).fields)
    (hclient : (ChainEvent.tokenWrapperCreated id s).Answered client) :
    getTokenWrapperInfo client event = (Field.ByteVec s.tokenContractId).toByte32 >>=
      fun tokenId => .ok (tokenId, contractAddress id) := by
  have hfield : fieldAt event.fields 0 = .ok (.Address (contractAddress id)) := by rw [hfields]; rfl
  have hlength : assume (event.fields.length = 1) = .ok () := by
    rw [assume, Go.assume_eq_ok, hfields]
    rfl
  have haddress : assume (contractAddress id = contractAddress id) = .ok () :=
    Go.assume_eq_ok.mpr rfl
  have htoken : fieldAt (tokenWrapperFields s) 4 = .ok (.ByteVec s.tokenContractId) := rfl
  rw [getTokenWrapperInfo, hlength, hfield, Go.ok_bind, Go.ok_bind, Field.toAddress, Go.ok_bind,
    show client (contractAddress id) = _ from hclient, Go.ok_bind, haddress, Go.ok_bind, htoken,
    Go.ok_bind]
  rfl

/-- The event is handled and leaves its writes in the batch, or it is fatal. -/
def HandledOrFatal (client : Client) (header : BlockHeader) (v : Validator) (batch : Batch)
    (e : ChainEvent) (event : Event) : Prop :=
  (e.Harmless ∧ ∃ v', handleEvent client header (v, batch) event = .ok (v', batch ++ e.writes) ∧
    SameStore v v') ∨
  (¬e.Harmless ∧ ¬(handleEvent client header (v, batch) event).IsOk)

/-- **One event.** -/
theorem handleEvent_cases (hv : v.Configured) (hdb : ValidAddresses v.db) (batch : Batch)
    {e : ChainEvent} (hserved : e.ServedAs v event) (hclient : e.Answered client) :
    HandledOrFatal client header v batch e event := by
  obtain ⟨haddress, hfields⟩ := hserved
  cases e with
  | message m =>
    have hcontract : event.contractAddress = v.governanceContract := haddress
    rw [HandledOrFatal, handleEvent, if_pos hcontract, ChainEvent.writes, List.append_nil]
    rcases handleGovernanceEvent_cases header hdb hfields with
      ⟨hharmless, v', hok, hsame⟩ | ⟨hharmful, hno⟩
    · exact .inl ⟨hharmless, v', by rw [hok]; rfl, hsame⟩
    · exact .inr ⟨hharmful, fun h => hno ((Go.isOk_bind.mp h).imp fun _ h => h.1)⟩
  | tokenBridgeForChainCreated id s =>
    have hcontract : event.contractAddress = v.tokenBridgeContract := haddress
    have hother : event.contractAddress ≠ v.governanceContract := by
      rw [hcontract]
      exact hv.governance_tokenBridge.symm
    rw [HandledOrFatal, handleEvent, if_neg hother, if_pos hcontract, handleTokenBridgeEvent,
      getTokenBridgeForChainInfo_eq hfields hclient, toUint16_U256]
    by_cases hchain : s.remoteChainId < 65535
    · exact .inl ⟨hchain, v, by rw [if_pos hchain]; rfl, .refl v⟩
    · exact .inr ⟨hchain, by simp [hchain]⟩
  | tokenWrapperCreated id s =>
    have hcontract : event.contractAddress = v.tokenWrapperFactoryContract := haddress
    have hother : event.contractAddress ≠ v.governanceContract ∧
        event.contractAddress ≠ v.tokenBridgeContract := by
      rw [hcontract]
      exact ⟨hv.governance_factory.symm, hv.tokenBridge_factory.symm⟩
    rw [HandledOrFatal, handleEvent, if_neg hother.1, if_neg hother.2, if_pos hcontract,
      handleTokenWrapperFactoryEvent, getTokenWrapperInfo_eq hfields hclient, Field.toByte32,
      Field.toByteVec, Go.ok_bind]
    by_cases htoken : s.tokenContractId.length = 32
    · refine .inl ⟨htoken, v, ?_, .refl v⟩
      rw [dif_pos htoken, ChainEvent.writes, dif_pos htoken]
      rfl
    · exact .inr ⟨htoken, by simp [htoken]⟩

variable (header) in
/-- **A list of events.** -/
theorem handleEvents_cases {es : List ChainEvent} {events : List Event} (hv : v.Configured)
    (hdb : ValidAddresses v.db) (batch : Batch)
    (hserved : List.Forall₂ (fun e event => e.ServedAs v event) es events)
    (hclient : ∀ e ∈ es, e.Answered client) :
    ((∀ e ∈ es, e.Harmless) ∧ ∃ v', handleEvents client header events (v, batch) =
      .ok (v', batch ++ es.flatMap ChainEvent.writes) ∧ SameStore v v') ∨
    (¬(∀ e ∈ es, e.Harmless) ∧ ¬(handleEvents client header events (v, batch)).IsOk) := by
  induction es generalizing events v batch with
  | nil =>
    cases hserved
    exact .inl ⟨by simp, v, by simp [handleEvents], .refl v⟩
  | cons e es ih =>
    obtain ⟨event, events, he, hes, rfl⟩ := List.forall₂_cons_left_iff.mp hserved
    rcases handleEvent_cases hv hdb batch he (hclient e (by simp)) with
      ⟨hharmless, v', hok, hsame⟩ | ⟨hharmful, hno⟩
    · have hes' : List.Forall₂ (fun e event => e.ServedAs v' event) es events :=
        hes.imp fun _ _ h => hsame.servedAs.mpr h
      rw [handleEvents, hok, Go.ok_bind, List.flatMap_cons, ← List.append_assoc]
      rcases ih (hsame.configured hv) (hsame.db ▸ hdb) (batch ++ e.writes) hes'
        (fun e he => hclient e (List.mem_cons_of_mem _ he)) with
        ⟨hrest, v'', hok', hsame'⟩ | ⟨hrest, hno⟩
      · exact .inl ⟨by simpa using ⟨hharmless, hrest⟩, v'', hok', hsame.trans hsame'⟩
      · exact .inr ⟨fun h => hrest fun e he => h e (List.mem_cons_of_mem _ he), hno⟩
    · refine .inr ⟨fun h => hharmful (h e (by simp)), fun h => hno ?_⟩
      obtain ⟨st, hst, -⟩ := Go.isOk_bind.mp h
      exact ⟨st, hst⟩

end Event

/-! ## The store after a round -/

theorem writeBatch_eq_some {db : Db} {b : Batch} {key value : List UInt8}
    (h : writeBatch db b key = some value) : db key = some value ∨ (key, value) ∈ b := by
  induction b generalizing db with
  | nil => exact .inl h
  | cons kv b ih =>
    obtain ⟨key', value'⟩ := kv
    have hcases : Function.update db key' (some value') key = some value ∨ (key, value) ∈ b := ih h
    rcases hcases with hdb | hmem
    · rcases Mapping.update_eq_some hdb with ⟨rfl, rfl⟩ | hold
      · exact .inr (List.mem_cons_self ..)
      · exact .inl hold
    · exact .inr (List.mem_cons_of_mem _ hmem)

theorem chainKey_length (chainId : UInt16) : (chainKey chainId).length = 24 := by
  simp [chainKey, chainPrefix]

theorem tokenWrapperKey_length (tokenId : Byte32) : (tokenWrapperKey tokenId).length = 45 := by
  simp [tokenWrapperKey, tokenWrapperPrefix, tokenId.property]

theorem lastBlockHeightKey_ne_chainKey (chainId : UInt16) : lastBlockHeightKey ≠ chainKey chainId := by
  intro h
  have := congrArg List.length h
  rw [chainKey_length] at this
  exact absurd this (by decide)

theorem lastBlockHeightKey_ne_tokenWrapperKey (tokenId : Byte32) :
    lastBlockHeightKey ≠ tokenWrapperKey tokenId := by
  intro h
  have := congrArg List.length h
  rw [tokenWrapperKey_length] at this
  exact absurd this (by decide)

theorem chainKey_ne_tokenWrapperKey (chainId : UInt16) (tokenId : Byte32) :
    chainKey chainId ≠ tokenWrapperKey tokenId := by
  intro h
  have := congrArg List.length h
  rw [chainKey_length, tokenWrapperKey_length] at this
  omega

theorem tokenWrapperKey_injective {t t' : Byte32} (h : tokenWrapperKey t = tokenWrapperKey t') :
    t = t' := Subtype.ext (List.append_cancel_left h)

theorem ChainEvent.length_of_mem_writes {e : ChainEvent} {kv : List UInt8 × List UInt8}
    (h : kv ∈ e.writes) : kv.2.length = 33 := by
  cases e with
  | message m => cases h
  | tokenBridgeForChainCreated id s =>
    obtain rfl := List.mem_singleton.mp h
    simp [contractAddress, id.property]
  | tokenWrapperCreated id s =>
    rw [writes] at h
    split at h
    · obtain rfl := List.mem_singleton.mp h
      simp [contractAddress, id.property]
    · cases h

/-- Writing a batch of addresses, and the height if it has moved on. -/
theorem ValidAddresses.writeBatch {db : Db} (h : ValidAddresses db) {b : Batch}
    (hb : ∀ kv ∈ b, kv.2.length = 33 ∨ kv.1 = lastBlockHeightKey) :
    ValidAddresses (writeBatch db b) := by
  constructor
  · intro chainId address haddress
    rcases writeBatch_eq_some haddress with hdb | hmem
    · exact h.1 chainId address hdb
    · exact (hb _ hmem).resolve_right (lastBlockHeightKey_ne_chainKey chainId).symm
  · intro tokenId address haddress
    rcases writeBatch_eq_some haddress with hdb | hmem
    · exact h.2 tokenId address hdb
    · exact (hb _ hmem).resolve_right (lastBlockHeightKey_ne_tokenWrapperKey tokenId).symm

/-- The bookkeeping writes the batch, with a height at its end or without. -/
theorem finishRound_db (v : Validator) (confirmed : ConfirmedMessages) (batch : Batch) :
    ∃ heights : Batch, (∀ kv ∈ heights, kv.1 = lastBlockHeightKey) ∧
      (finishRound v confirmed batch).db = writeBatch v.db (batch ++ heights) := by
  have hnone : ∀ db, writeBatch db batch = writeBatch db (batch ++ []) := by simp
  unfold finishRound
  split
  · exact ⟨[], by simp, hnone v.db⟩
  · split
    · simp only [updateProcessedHeight]
      split
      · exact ⟨[], by simp, hnone v.db⟩
      · split
        · exact ⟨[(lastBlockHeightKey, _)], by simp, rfl⟩
        · exact ⟨[], by simp, hnone v.db⟩
    · exact ⟨[], by simp, hnone v.db⟩

theorem finishRound_contracts (v : Validator) (confirmed : ConfirmedMessages) (batch : Batch) :
    (finishRound v confirmed batch).governanceContract = v.governanceContract ∧
    (finishRound v confirmed batch).tokenBridgeContract = v.tokenBridgeContract ∧
    (finishRound v confirmed batch).tokenWrapperFactoryContract = v.tokenWrapperFactoryContract := by
  unfold finishRound
  split
  · exact ⟨rfl, rfl, rfl⟩
  · split
    · simp only [updateProcessedHeight]
      split
      · exact ⟨rfl, rfl, rfl⟩
      · split <;> exact ⟨rfl, rfl, rfl⟩
    · exact ⟨rfl, rfl, rfl⟩

theorem finishRound_caches (v : Validator) (confirmed : ConfirmedMessages) (batch : Batch) :
    (finishRound v confirmed batch).remoteChainCache = v.remoteChainCache ∧
    (finishRound v confirmed batch).tokenWrapperCache = v.tokenWrapperCache := by
  unfold finishRound
  split
  · exact ⟨rfl, rfl⟩
  · split
    · simp only [updateProcessedHeight]
      split
      · exact ⟨rfl, rfl⟩
      · split <;> exact ⟨rfl, rfl⟩
    · exact ⟨rfl, rfl⟩

/-! ## Rounds -/

/-- The batch that the watcher hands over for the events `es`. -/
def Delivers (v : Validator) (es : List ChainEvent) (confirmed : ConfirmedMessages) : Prop :=
  List.Forall₂ (fun e event => e.ServedAs v event) es confirmed.messages

theorem Delivers.of_contracts {v v' : Validator} {es : List ChainEvent}
    {confirmed : ConfirmedMessages} (hgovernance : v'.governanceContract = v.governanceContract)
    (htokenBridge : v'.tokenBridgeContract = v.tokenBridgeContract)
    (hfactory : v'.tokenWrapperFactoryContract = v.tokenWrapperFactoryContract)
    (h : Delivers v es confirmed) : Delivers v' es confirmed := by
  refine h.imp fun e event he => ?_
  have hcontract : e.contract v' = e.contract v := by
    cases e with
    | message m => exact hgovernance
    | tokenBridgeForChainCreated id s => exact htokenBridge
    | tokenWrapperCreated id s => exact hfactory
  rwa [ChainEvent.ServedAs, hcontract]

section Rounds

variable {client : Client} {v : Validator}

/-- **One round.** -/
theorem round_cases {es : List ChainEvent} {confirmed : ConfirmedMessages} (hv : v.Configured)
    (hdb : ValidAddresses v.db) (hdelivers : Delivers v es confirmed)
    (hclient : ∀ e ∈ es, e.Answered client) :
    ((∀ e ∈ es, e.Harmless) ∧ ∃ v', round client v confirmed = .ok v' ∧ ValidAddresses v'.db ∧
      v'.governanceContract = v.governanceContract ∧
      v'.tokenBridgeContract = v.tokenBridgeContract ∧
      v'.tokenWrapperFactoryContract = v.tokenWrapperFactoryContract) ∨
    (¬(∀ e ∈ es, e.Harmless) ∧ ¬(round client v confirmed).IsOk) := by
  rcases handleEvents_cases confirmed.blockHeader hv hdb [] hdelivers hclient with
    ⟨hharmless, v', hok, hsame⟩ | ⟨hharmful, hno⟩
  · refine .inl ⟨hharmless, finishRound v' confirmed ([] ++ es.flatMap ChainEvent.writes), ?_, ?_, ?_⟩
    · rw [round, hok]
      rfl
    · obtain ⟨heights, hheights, heq⟩ :=
        finishRound_db v' confirmed ([] ++ es.flatMap ChainEvent.writes)
      rw [heq, hsame.db]
      refine hdb.writeBatch fun kv hkv => ?_
      rcases List.mem_append.mp hkv with hkv | hkv
      · obtain ⟨e, -, he⟩ := List.mem_flatMap.mp (by simpa using hkv)
        exact .inl (ChainEvent.length_of_mem_writes he)
      · exact .inr (hheights kv hkv)
    · obtain ⟨h₁, h₂, h₃⟩ := finishRound_contracts v' confirmed ([] ++ es.flatMap ChainEvent.writes)
      exact ⟨h₁.trans hsame.governanceContract, h₂.trans hsame.tokenBridgeContract,
        h₃.trans hsame.tokenWrapperFactoryContract⟩
  · exact .inr ⟨hharmful, fun h => hno ((Go.isOk_bind.mp h).imp fun _ h => h.1)⟩

/-- **Inbound data never kills the validator, except for the harmful events.** Whatever batches of
events of the three contracts the validator receives, its loop goes on through all of them, without an
error and without a panic, exactly when every event is harmless. -/
theorem rounds_isOk_iff (hv : v.Configured) (hdb : ValidAddresses v.db)
    {ess : List (List ChainEvent)} {cs : List ConfirmedMessages}
    (hdelivers : List.Forall₂ (Delivers v) ess cs)
    (hclient : ∀ es ∈ ess, ∀ e ∈ es, e.Answered client) :
    (rounds client cs v).IsOk ↔ ∀ es ∈ ess, ∀ e ∈ es, e.Harmless := by
  induction ess generalizing cs v with
  | nil =>
    cases hdelivers
    simp [rounds]
  | cons es ess ih =>
    obtain ⟨confirmed, cs, hes, hess, rfl⟩ := List.forall₂_cons_left_iff.mp hdelivers
    rcases round_cases hv hdb hes (hclient es (by simp)) with
      ⟨hharmless, v', hok, hdb', h₁, h₂, h₃⟩ | ⟨hharmful, hno⟩
    · have hv' : v'.Configured := ⟨by rw [h₁, h₂]; exact hv.1, by rw [h₁, h₃]; exact hv.2,
        by rw [h₂, h₃]; exact hv.3⟩
      rw [rounds, hok, Go.ok_bind, ih hv' hdb' (hess.imp fun _ _ h => h.of_contracts h₁ h₂ h₃)
        fun es hes => hclient es (List.mem_cons_of_mem _ hes)]
      simp only [List.forall_mem_cons]
      exact ⟨fun h => ⟨hharmless, h⟩, And.right⟩
    · refine iff_of_false (fun h => hno ?_) fun h => hharmful (h es (by simp))
      exact (Go.isOk_bind.mp h).imp fun _ h => h.1

end Rounds

/-! ## Inputs -/

/-- A validator that has seen nothing yet. -/
def freshValidator : Validator where
  governanceContract := contractAddress ⟨List.replicate 32 0xa0, rfl⟩
  tokenBridgeContract := contractAddress ⟨List.replicate 32 0xa1, rfl⟩
  tokenWrapperFactoryContract := contractAddress ⟨List.replicate 32 0xa2, rfl⟩
  remoteChainCache := fun _ => none
  tokenWrapperCache := fun _ => none
  db := fun _ => none
  published := []
  fromHeight := 0
  blocks := fun _ => none

theorem freshValidator_configured : freshValidator.Configured :=
  ⟨by decide +kernel, by decide +kernel, by decide +kernel⟩

theorem freshValidator_validAddresses : ValidAddresses freshValidator.db :=
  ⟨fun _ _ h => (Option.some_ne_none _ h.symm).elim, fun _ _ h => (Option.some_ne_none _ h.symm).elim⟩

/-- The message of a contract `caller`, published with these data and consistency level. -/
def sampleMessage (data : List UInt8) (consistencyLevel : Nat) : ChainEvent :=
  .message { sender := ⟨List.replicate 32 0xee, rfl⟩, sequence := 0, data, consistencyLevel }

theorem sampleBlockHash_length : (List.replicate 32 (0x01 : UInt8)).length = 32 := rfl

theorem sampleTxId_length : (List.replicate 32 (0x02 : UInt8)).length = 32 := rfl

/-- The event as the full node serves it. -/
def sampleEvent (e : ChainEvent) : Event where
  blockHash := ⟨List.replicate 32 0x01, sampleBlockHash_length⟩
  contractAddress := e.contract freshValidator
  txId := ⟨List.replicate 32 0x02, sampleTxId_length⟩
  fields := e.fields

/-- A block at height `height` with these events. -/
def sampleConfirmed (height : Nat) (es : List ChainEvent) : ConfirmedMessages where
  blockHeader := { hash := ⟨List.replicate 32 0x01, sampleBlockHash_length⟩, timestamp := 1000, height }
  messages := es.map sampleEvent
  finished := true
  reObserved := false

theorem sampleConfirmed_delivers (height : Nat) (es : List ChainEvent) :
    Delivers freshValidator es (sampleConfirmed height es) := by
  rw [Delivers, sampleConfirmed, List.forall₂_map_right_iff, List.forall₂_same]
  exact fun e _ => ⟨rfl, rfl⟩

/-- A full node that does not answer. -/
def silentClient : Client := fun _ => .error "request error"

/-- A contract publishes one byte that is no transfer. -/
theorem rounds_isOk_sample :
    (rounds silentClient [sampleConfirmed 0 [sampleMessage [0, 0, 0, 0, 2] 0]] freshValidator).IsOk := by
  have hdelivers : List.Forall₂ (Delivers freshValidator) [[sampleMessage [0, 0, 0, 0, 2] 0]]
      [sampleConfirmed 0 [sampleMessage [0, 0, 0, 0, 2] 0]] :=
    .cons (sampleConfirmed_delivers _ _) .nil
  refine (rounds_isOk_iff freshValidator_configured freshValidator_validAddresses hdelivers ?_).mpr ?_
  · intro es hes e he
    simp only [List.mem_singleton] at hes
    subst hes
    obtain rfl := List.mem_singleton.mp he
    trivial
  · intro es hes e he
    simp only [List.mem_singleton] at hes
    subst hes
    obtain rfl := List.mem_singleton.mp he
    exact ⟨by decide, by decide, by decide, by decide⟩

open Wormhole.Alephium in
/-- **One message stops the guardian.** Published by any contract: an empty payload and a payload of the
single byte 1 panic, a consistency level of 255 and a sequence number of 2 ^ 64 end the loop. -/
theorem rounds_killed :
    let kill (sequence : Nat) (payload : List UInt8) (consistencyLevel : Nat) :=
      rounds silentClient [sampleConfirmed 0 [.message (Governance.publishMessage
        ⟨List.replicate 32 0xee, rfl⟩ sequence [0, 0, 0, 0] payload consistencyLevel)]] freshValidator
    kill 0 [] 0 = .panic "runtime error: index out of range" ∧
    kill 0 [1] 0 = .panic "false" ∧
    kill 0 [2] 255 = .error "invalid uint8" ∧
    kill (2 ^ 64) [2] 0 = .error "invalid uint64" := by
  refine ⟨rfl, rfl, rfl, ?_⟩
  rfl

end Wormhole.Guardian.Alephium
