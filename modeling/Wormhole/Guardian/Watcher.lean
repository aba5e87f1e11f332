/-
# Wormhole.Guardian.Watcher — polling the Alephium full node.

The watcher goroutines (`node/pkg/alephium/watcher.go`) and the requests they make (`client.go`).
`getEvents` reads the chain's height every tick, fetches the events of the new blocks and keeps them
pending until their height has enough confirmations; `handleObsvRequest` looks up a transaction again on
demand.  Both hand what is confirmed to the validator.  `fetchContractAddresses` runs before them, after
a restart.

A `FullNode` stands for the answers at one moment, so one tick sees one state of the chain.  Heights are
`uint32`: `addHeight` is their sum.
-/
import Mathlib
import Wormhole.Lib.Bytes
import Wormhole.Lib.Go
import Wormhole.Lib.SortedMap
import Wormhole.Guardian.AlephiumEvent
import Wormhole.Guardian.Validator

namespace Wormhole.Guardian.Alephium

open Wormhole.Lib Wormhole.Lib.Bytes

/-! ## The full node -/

/-- The answers of the full node, at one moment. -/
structure FullNode where
  currentHeight : Go Nat
  hashes : Nat → Go (List Byte32)
  blockHeader : Byte32 → Go BlockHeader
  isBlockInMainChain : Byte32 → Go Bool
  eventsFromBlock : Byte32 → ContractAddress → Go (List Event)
  /-- the hash of the block that holds the transaction -/
  transactionStatus : Byte32 → Go Byte32
  contractState : Client

def getHashByHeight (node : FullNode) (height : Nat) : Go Byte32 := do
  let hashes ← node.hashes height
  match hashes with
  | [] => .error "no block for height"
  | hash :: _ => return hash

def getContractEventsFromBlockHash (node : FullNode) (hash : Byte32) :
    List ContractAddress → Go (List Event)
  | [] => .ok []
  | contract :: contracts => do
    let events ← node.eventsFromBlock hash contract
    let rest ← getContractEventsFromBlockHash node hash contracts
    return events ++ rest

/-! ## Messages -/

structure Message where
  event : Event
  confirmations : UInt8
  deriving DecidableEq

structure PendingMessages where
  blockHeader : BlockHeader
  messages : List Message
  deriving DecidableEq

/-- `messageFromEvent`.  The consistency level is cut to its low 8 bits. -/
def messageFromEvent (event : Event) (governanceContract : ContractAddress)
    (minConfirmations : UInt8) : Go Message :=
  if event.contractAddress ≠ governanceContract then
    .ok { event, confirmations := minConfirmations }
  else
    match event.fields.getLast? with
    | none => outOfRange
    | some field => do
      let consistencyLevel ← field.toUint64
      let confirmations := UInt8.ofNat consistencyLevel.toNat
      return { event, confirmations :=
        if confirmations < minConfirmations then minConfirmations else confirmations }

def messagesFromEvents (governanceContract : ContractAddress) (minConfirmations : UInt8) :
    List Event → Go (List Message)
  | [] => .ok []
  | event :: events => do
    let msg ← messageFromEvent event governanceContract minConfirmations
    let msgs ← messagesFromEvents governanceContract minConfirmations events
    return msg :: msgs

/-! ## The watcher -/

/-- What the watcher is started with. -/
structure Config where
  governanceContract : ContractAddress
  tokenBridgeContract : ContractAddress
  tokenWrapperFactoryContract : ContractAddress
  initHeight : Nat
  minConfirmations : UInt64

def Config.contracts (config : Config) : List ContractAddress :=
  [config.governanceContract, config.tokenBridgeContract, config.tokenWrapperFactoryContract]

/-- `uint8(w.minConfirmations)`, the low 8 bits. -/
def Config.minConfirmations8 (config : Config) : UInt8 :=
  UInt8.ofNat config.minConfirmations.toNat

/-- The variables of the two goroutines. -/
structure Watcher where
  config : Config
  /-- `w.currentHeight`, written by `getEvents` and read by `handleObsvRequest` -/
  sharedHeight : Nat
  currentHeight : Nat
  pendings : List (Nat × PendingMessages)
  /-- `getEvents` has returned -/
  stopped : Bool
  /-- a request between its two halves: the transaction, its block and the height read -/
  observing : Option (Byte32 × Byte32 × Nat)
  /-- what has been sent to `confirmedC` -/
  sent : List ConfirmedMessages

/-- The sum of two `uint32`. -/
def addHeight (height confirmations : Nat) : Nat := (height + confirmations) % 2 ^ 32

/-- `uint32(w.minConfirmations)`. -/
def Config.minConfirmations32 (config : Config) : Nat := config.minConfirmations.toNat % 2 ^ 32

def getPendingMessageFromBlockHash (config : Config) (node : FullNode) (blockHash : Byte32)
    (contracts : List ContractAddress) (filter : Event → Bool) : Go PendingMessages := do
  let events ← getContractEventsFromBlockHash node blockHash contracts
  let events := events.filter filter
  let blockHeader ← node.blockHeader blockHash
  let messages ← messagesFromEvents config.governanceContract config.minConfirmations8 events
  return { blockHeader, messages }

def getMessagesFromBlock (config : Config) (node : FullNode) (height : Nat) : Go PendingMessages := do
  let hash ← getHashByHeight node height
  getPendingMessageFromBlockHash config node hash config.contracts fun _ => true

/-! ## Polling -/

/-- The messages that are not confirmed at the chain height, and those that are. -/
def splitConfirmed (height currentHeight : Nat) (messages : List Message) :
    List Message × List Message :=
  messages.partition fun msg => currentHeight < addHeight height msg.confirmations.toNat

/-- The pending messages whose block is on the main chain, or those of the block that is. -/
def recheck (config : Config) (node : FullNode) (height : Nat) (pending : PendingMessages) :
    Go PendingMessages :=
  match pending.messages with
  | [] => .ok pending
  | msg :: _ => do
    let isCanonical ← node.isBlockInMainChain msg.event.blockHash
    -- forked, we need to re-request events for the height
    if isCanonical then return pending else getMessagesFromBlock config node height

/-- One round of `checkConfirmations`: what stays pending, and what is sent. -/
def checkHeight (config : Config) (node : FullNode) (currentHeight height : Nat)
    (pending : PendingMessages) : Go (Option PendingMessages × Option ConfirmedMessages) :=
  if pending.messages = [] then
    .ok (some pending, some {
      blockHeader := pending.blockHeader
      messages := []
      finished := true
      reObserved := false })
  else if currentHeight < addHeight height config.minConfirmations32 then .ok (some pending, none)
  else do
    let pending ← recheck config node height pending
    let (unconfirmed, confirmed) := splitConfirmed height currentHeight pending.messages
    let remaining := if unconfirmed = [] then none
      else some { blockHeader := pending.blockHeader, messages := unconfirmed }
    return (remaining, some {
      blockHeader := pending.blockHeader
      messages := confirmed.map Message.event
      finished := unconfirmed = []
      reObserved := false })

/-- `checkConfirmations`, over the pending heights in their order: what stays pending, what is sent, and
whether the loop has got to its end. -/
def checkConfirmations (config : Config) (node : FullNode) (currentHeight : Nat) :
    List (Nat × PendingMessages) → List (Nat × PendingMessages) × List ConfirmedMessages × Bool
  | [] => ([], [], true)
  | (height, pending) :: rest =>
    match checkHeight config node currentHeight height pending with
    | .ok (remaining, sent) =>
      let (pendings, sents, done) := checkConfirmations config node currentHeight rest
      (remaining.toList.map (Prod.mk height) ++ pendings, sent.toList ++ sents, done)
    | _ => ((height, pending) :: rest, [], false)

/-- The events of `n` heights from `h` on. -/
def fetchHeights (config : Config) (node : FullNode) :
    Nat → Nat → List (Nat × PendingMessages) → Go (List (Nat × PendingMessages))
  | 0, _, pendings => .ok pendings
  | n + 1, h, pendings => do
    let msgs ← getMessagesFromBlock config node h
    fetchHeights config node n (h + 1) (SortedMap.insert h msgs pendings)

/-- A tick of `getEvents`.  Up to the largest `uint32` its loop over the heights would go on for ever
without sending anything. -/
def tick (node : FullNode) (w : Watcher) : Watcher :=
  if w.stopped then w
  else
    match node.currentHeight with
    | .ok height =>
      let w := { w with sharedHeight := height }
      if height ≤ w.currentHeight then { w with currentHeight := height }
      else if height = 2 ^ 32 - 1 then { w with stopped := true }
      else
        match fetchHeights w.config node (height - w.currentHeight) (w.currentHeight + 1) w.pendings with
        | .ok pendings =>
          let (pendings, sents, done) := checkConfirmations w.config node height pendings
          { w with currentHeight := height, pendings, sent := w.sent ++ sents, stopped := !done }
        | _ => { w with stopped := true }
    | _ => { w with stopped := true }

/-- The start of `getEvents`. -/
def startEvents (node : FullNode) (fromHeight : Nat) (w : Watcher) : Watcher :=
  match getMessagesFromBlock w.config node fromHeight with
  | .ok msgs =>
    { w with currentHeight := fromHeight, pendings := [(fromHeight, msgs)], stopped := false }
  | _ => { w with currentHeight := fromHeight, pendings := [], stopped := true }

/-! ## Re-observation -/

/-- `handleObsvRequest`, up to its read of the shared height. -/
def observe (node : FullNode) (txId : Byte32) (w : Watcher) : Watcher :=
  let blockHash : Go Byte32 := do
    let blockHash ← node.transactionStatus txId
    let isCanonical ← node.isBlockInMainChain blockHash
    if isCanonical then return blockHash else .error "ignore orphan block"
  match blockHash with
  | .ok blockHash => { w with observing := some (txId, blockHash, w.sharedHeight) }
  | _ => { w with observing := none }

/-- `handleObsvRequest`, from there on. -/
def reObserve (node : FullNode) (w : Watcher) : Watcher :=
  match w.observing with
  | none => w
  | some (txId, blockHash, currentHeight) =>
    match getPendingMessageFromBlockHash w.config node blockHash [w.config.governanceContract]
        fun event => event.txId = txId with
    | .ok pendingMsg =>
      let confirmedMsgs := pendingMsg.messages.filter fun msg =>
        addHeight pendingMsg.blockHeader.height msg.confirmations.toNat ≤ currentHeight
      if confirmedMsgs = [] then { w with observing := none }
      else { w with
        observing := none
        sent := w.sent ++ [{
          blockHeader := pendingMsg.blockHeader
          messages := confirmedMsgs.map Message.event
          finished := true
          reObserved := true }] }
    | _ => { w with observing := none }

/-! ## Starting again -/

/-- The contract creations of one height, added to the batch. -/
def fetchCreations (config : Config) (node : FullNode) :
    List Event → Batch → Go Batch
  | [], batch => .ok batch
  | event :: events, batch => do
    let batch ← if event.contractAddress = config.tokenBridgeContract then do
        let (chainId, address) ← getTokenBridgeForChainInfo node.contractState event
        Go.ok (batch.writeChain chainId address)
      else if event.contractAddress = config.tokenWrapperFactoryContract then do
        let (tokenId, address) ← getTokenWrapperInfo node.contractState event
        Go.ok (batch.writeTokenWrapper tokenId address)
      else Go.ok batch
    fetchCreations config node events batch

/-- Those of `n` heights from `h` on. -/
def fetchCreationsOf (config : Config) (node : FullNode) : Nat → Nat → Batch → Go Batch
  | 0, _, batch => .ok batch
  | n + 1, h, batch => do
    let hash ← getHashByHeight node h
    let events ← getContractEventsFromBlockHash node hash
      [config.tokenBridgeContract, config.tokenWrapperFactoryContract]
    let batch ← fetchCreations config node events batch
    fetchCreationsOf config node n (h + 1) batch

/-- `fetchContractAddresses`: the height to go on from, and the store. -/
def fetchContractAddresses (config : Config) (node : FullNode) (db : Db) : Go (Nat × Db) :=
  match db lastBlockHeightKey with
  | none => .ok (config.initHeight, db)
  | some value => do
    let lastHeight := beNat value
    let currentHeight ← node.currentHeight
    if currentHeight ≤ addHeight lastHeight MaxForkHeight then return (lastHeight, db)
    else
      let toHeight := addHeight currentHeight (2 ^ 32 - MaxForkHeight)
      let h := addHeight lastHeight 1
      let batch ← fetchCreationsOf config node (toHeight - h) h []
      return (toHeight, writeBatch db (batch.updateHeight (addHeight toHeight (2 ^ 32 - 1))))

/-! ## What the functions do -/

theorem getHashByHeight_eq_ok {node : FullNode} {height : Nat} {hash : Byte32} :
    getHashByHeight node height = .ok hash ↔ ∃ orphans, node.hashes height = .ok (hash :: orphans) := by
  rw [getHashByHeight, Go.bind_eq_ok]
  constructor
  · rintro ⟨hashes, hhashes, h⟩
    cases hashes with
    | nil => cases h
    | cons hash' orphans =>
      obtain rfl := Go.ok.inj h
      exact ⟨orphans, hhashes⟩
  · rintro ⟨orphans, h⟩
    exact ⟨_, h, rfl⟩

/-- Every event comes from one of the contracts asked for. -/
theorem getContractEventsFromBlockHash_eq_ok {node : FullNode} {hash : Byte32}
    {contracts : List ContractAddress} {events : List Event}
    (h : getContractEventsFromBlockHash node hash contracts = .ok events) {e : Event} (he : e ∈ events) :
    ∃ contract ∈ contracts, ∃ events', node.eventsFromBlock hash contract = .ok events' ∧ e ∈ events' := by
  induction contracts generalizing events with
  | nil =>
    obtain rfl := Go.ok.inj h
    cases he
  | cons contract contracts ih =>
    obtain ⟨events', hevents', h⟩ := Go.bind_eq_ok.mp h
    obtain ⟨rest, hrest, h⟩ := Go.bind_eq_ok.mp h
    obtain rfl := Go.ok.inj h
    rcases List.mem_append.mp he with he | he
    · exact ⟨contract, List.mem_cons_self .., events', hevents', he⟩
    · obtain ⟨contract', hmem, hrest⟩ := ih hrest he
      exact ⟨contract', List.mem_cons_of_mem _ hmem, hrest⟩

theorem messageFromEvent_event {event : Event} {governanceContract : ContractAddress}
    {minConfirmations : UInt8} {msg : Message}
    (h : messageFromEvent event governanceContract minConfirmations = .ok msg) : msg.event = event := by
  unfold messageFromEvent at h
  split at h
  · obtain rfl := Go.ok.inj h
    rfl
  · split at h
    · cases h
    · obtain ⟨_, -, h⟩ := Go.bind_eq_ok.mp h
      obtain rfl := Go.ok.inj h
      rfl

/-- A message is made of each event, in order. -/
theorem messagesFromEvents_eq_ok {governanceContract : ContractAddress} {minConfirmations : UInt8}
    {events : List Event} {msgs : List Message}
    (h : messagesFromEvents governanceContract minConfirmations events = .ok msgs) :
    msgs.map Message.event = events ∧
      ∀ msg ∈ msgs, messageFromEvent msg.event governanceContract minConfirmations = .ok msg := by
  induction events generalizing msgs with
  | nil =>
    obtain rfl := Go.ok.inj h
    simp
  | cons event events ih =>
    obtain ⟨msg, hmsg, h⟩ := Go.bind_eq_ok.mp h
    obtain ⟨rest, hrest, h⟩ := Go.bind_eq_ok.mp h
    obtain rfl := Go.ok.inj h
    obtain ⟨hmap, hall⟩ := ih hrest
    have hevent := messageFromEvent_event hmsg
    refine ⟨by rw [List.map_cons, hmap, hevent], List.forall_mem_cons.mpr ⟨?_, hall⟩⟩
    rwa [hevent]

/-- The messages of a block are those of its events. -/
theorem getPendingMessageFromBlockHash_eq_ok {config : Config} {node : FullNode} {blockHash : Byte32}
    {contracts : List ContractAddress} {filter : Event → Bool} {pending : PendingMessages}
    (h : getPendingMessageFromBlockHash config node blockHash contracts filter = .ok pending) :
    node.blockHeader blockHash = .ok pending.blockHeader ∧ ∃ events,
      getContractEventsFromBlockHash node blockHash contracts = .ok events ∧
      pending.messages.map Message.event = events.filter filter ∧
      ∀ msg ∈ pending.messages, messageFromEvent msg.event config.governanceContract
        config.minConfirmations8 = .ok msg := by
  obtain ⟨events, hevents, h⟩ := Go.bind_eq_ok.mp h
  obtain ⟨header, hheader, h⟩ := Go.bind_eq_ok.mp h
  obtain ⟨msgs, hmsgs, h⟩ := Go.bind_eq_ok.mp h
  obtain rfl := Go.ok.inj h
  obtain ⟨hmap, hall⟩ := messagesFromEvents_eq_ok hmsgs
  exact ⟨hheader, events, hevents, hmap, hall⟩

theorem getMessagesFromBlock_eq_ok {config : Config} {node : FullNode} {height : Nat}
    {pending : PendingMessages} (h : getMessagesFromBlock config node height = .ok pending) :
    ∃ hash, getHashByHeight node height = .ok hash ∧
      getPendingMessageFromBlockHash config node hash config.contracts (fun _ => true) = .ok pending :=
  Go.bind_eq_ok.mp h

/-- **One height.** Nothing to wait for, nothing confirmed yet, or the confirmed part of the messages of
the canonical block. -/
theorem checkHeight_eq_ok {config : Config} {node : FullNode} {currentHeight height : Nat}
    {pending : PendingMessages} {remaining : Option PendingMessages}
    {sent : Option ConfirmedMessages}
    (h : checkHeight config node currentHeight height pending = .ok (remaining, sent)) :
    (pending.messages = [] ∧ remaining = some pending ∧
      sent = some ⟨pending.blockHeader, [], true, false⟩) ∨
    (pending.messages ≠ [] ∧ currentHeight < addHeight height config.minConfirmations32 ∧
      remaining = some pending ∧ sent = none) ∨
    (pending.messages ≠ [] ∧ addHeight height config.minConfirmations32 ≤ currentHeight ∧
      ∃ p, recheck config node height pending = .ok p ∧
        let (unconfirmed, confirmed) := splitConfirmed height currentHeight p.messages
        remaining = (if unconfirmed = [] then none else some ⟨p.blockHeader, unconfirmed⟩) ∧
        sent = some ⟨p.blockHeader, confirmed.map Message.event, decide (unconfirmed = []), false⟩) := by
  unfold checkHeight at h
  split at h
  · rename_i hempty
    obtain ⟨rfl, rfl⟩ := Prod.mk.inj (Go.ok.inj h)
    exact .inl ⟨hempty, rfl, rfl⟩
  · rename_i hmessages
    split at h
    · rename_i hlt
      obtain ⟨rfl, rfl⟩ := Prod.mk.inj (Go.ok.inj h)
      exact .inr (.inl ⟨hmessages, hlt, rfl, rfl⟩)
    · rename_i hle
      obtain ⟨p, hp, h⟩ := Go.bind_eq_ok.mp h
      obtain ⟨rfl, rfl⟩ := Prod.mk.inj (Go.ok.inj h)
      exact .inr (.inr ⟨hmessages, Nat.le_of_not_lt hle, p, hp, rfl, rfl⟩)

theorem splitConfirmed_eq (height currentHeight : Nat) (messages : List Message) :
    splitConfirmed height currentHeight messages =
      (messages.filter fun msg => currentHeight < addHeight height msg.confirmations.toNat,
        messages.filter fun msg => addHeight height msg.confirmations.toNat ≤ currentHeight) := by
  rw [splitConfirmed, List.partition_eq_filter_filter]
  congr 2
  funext msg
  simp only [Function.comp_apply, ← decide_not, not_lt]

theorem recheck_eq_ok {config : Config} {node : FullNode} {height : Nat}
    {pending p : PendingMessages} (h : recheck config node height pending = .ok p) :
    p = pending ∨ getMessagesFromBlock config node height = .ok p := by
  unfold recheck at h
  split at h
  · exact .inl (Go.ok.inj h).symm
  · obtain ⟨isCanonical, -, h⟩ := Go.bind_eq_ok.mp h
    split at h
    · exact .inl (Go.ok.inj h).symm
    · exact .inr h

/-- **The rule of `checkConfirmations`.** What every round keeps of its pending messages, and what it
guarantees of those it sends. -/
theorem checkConfirmations_rule {config : Config} {node : FullNode} {currentHeight : Nat}
    {P : Nat → PendingMessages → Prop} {Q : ConfirmedMessages → Prop}
    (hround : ∀ height pending remaining sent, P height pending →
      checkHeight config node currentHeight height pending = .ok (remaining, sent) →
      (∀ p ∈ remaining, P height p) ∧ ∀ c ∈ sent, Q c)
    {pendings : List (Nat × PendingMessages)} (h : ∀ x ∈ pendings, P x.1 x.2) :
    (∀ x ∈ (checkConfirmations config node currentHeight pendings).1, P x.1 x.2) ∧
      ∀ c ∈ (checkConfirmations config node currentHeight pendings).2.1, Q c := by
  induction pendings with
  | nil => simp [checkConfirmations]
  | cons x pendings ih =>
    obtain ⟨height, pending⟩ := x
    obtain ⟨hx, hrest⟩ := List.forall_mem_cons.mp h
    rw [checkConfirmations]
    split
    · rename_i remaining sent hcheck
      obtain ⟨hremaining, hsent⟩ := hround height pending remaining sent hx hcheck
      obtain ⟨ih₁, ih₂⟩ := ih hrest
      refine ⟨fun y hy => ?_, fun c hc => ?_⟩
      · rcases List.mem_append.mp hy with hy | hy
        · obtain ⟨p, hp, rfl⟩ := List.mem_map.mp hy
          exact hremaining p (Option.mem_toList.mp hp)
        · exact ih₁ y hy
      · rcases List.mem_append.mp hc with hc | hc
        · exact hsent c (Option.mem_toList.mp hc)
        · exact ih₂ c hc
    · exact ⟨h, by simp⟩

/-- **Where `checkConfirmations` leaves a height**: as it is, when the loop has not got that far, or as
its round says. -/
theorem checkConfirmations_of_mem {config : Config} {node : FullNode} {currentHeight : Nat}
    {pendings : List (Nat × PendingMessages)} {height : Nat} {pending : PendingMessages}
    (h : (height, pending) ∈ pendings) :
    ((checkConfirmations config node currentHeight pendings).2.2 = false ∧
      (height, pending) ∈ (checkConfirmations config node currentHeight pendings).1) ∨
    ∃ remaining sent, checkHeight config node currentHeight height pending = .ok (remaining, sent) ∧
      (∀ p ∈ remaining, (height, p) ∈ (checkConfirmations config node currentHeight pendings).1) ∧
      ∀ c ∈ sent, c ∈ (checkConfirmations config node currentHeight pendings).2.1 := by
  induction pendings with
  | nil => cases h
  | cons x pendings ih =>
    obtain ⟨height', pending'⟩ := x
    rw [checkConfirmations]
    split
    · rename_i remaining sent hcheck
      rcases List.mem_cons.mp h with heq | h
      · obtain ⟨rfl, rfl⟩ := Prod.mk.inj heq
        refine .inr ⟨remaining, sent, hcheck, fun p hp => ?_, fun c hc => ?_⟩
        · exact List.mem_append_left _ (List.mem_map_of_mem (Option.mem_toList.mpr hp))
        · exact List.mem_append_left _ (Option.mem_toList.mpr hc)
      · rcases ih h with ⟨hdone, hmem⟩ | ⟨r, s, hr, hp, hc⟩
        · exact .inl ⟨hdone, List.mem_append_right _ hmem⟩
        · exact .inr ⟨r, s, hr, fun p h => List.mem_append_right _ (hp p h),
            fun c h => List.mem_append_right _ (hc c h)⟩
    · exact .inl ⟨rfl, h⟩

/-- **Where what stays, and what is sent, come from.** -/
theorem mem_checkConfirmations {config : Config} {node : FullNode} {currentHeight : Nat}
    {pendings : List (Nat × PendingMessages)} :
    (∀ x ∈ (checkConfirmations config node currentHeight pendings).1, x ∈ pendings ∨
      ∃ pending remaining sent, (x.1, pending) ∈ pendings ∧ x.2 ∈ remaining ∧
        checkHeight config node currentHeight x.1 pending = .ok (remaining, sent) ∧
        ∀ c ∈ sent, c ∈ (checkConfirmations config node currentHeight pendings).2.1) ∧
    ∀ c ∈ (checkConfirmations config node currentHeight pendings).2.1,
      ∃ height pending remaining sent, (height, pending) ∈ pendings ∧ c ∈ sent ∧
        checkHeight config node currentHeight height pending = .ok (remaining, sent) := by
  induction pendings with
  | nil => simp [checkConfirmations]
  | cons x pendings ih =>
    obtain ⟨height', pending'⟩ := x
    obtain ⟨ih₁, ih₂⟩ := ih
    rw [checkConfirmations]
    split
    · rename_i remaining sent hcheck
      refine ⟨fun x hx => ?_, fun c hc => ?_⟩
      · rcases List.mem_append.mp hx with hx | hx
        · obtain ⟨p, hp, rfl⟩ := List.mem_map.mp hx
          exact .inr ⟨pending', remaining, sent, List.mem_cons_self .., Option.mem_toList.mp hp,
            hcheck, fun c hc => List.mem_append_left _ (Option.mem_toList.mpr hc)⟩
        · rcases ih₁ x hx with hx | ⟨p, r, s, hp, hr, hcheck', hs⟩
          · exact .inl (List.mem_cons_of_mem _ hx)
          · exact .inr ⟨p, r, s, List.mem_cons_of_mem _ hp, hr, hcheck',
              fun c hc => List.mem_append_right _ (hs c hc)⟩
      · rcases List.mem_append.mp hc with hc | hc
        · exact ⟨height', pending', remaining, sent, List.mem_cons_self .., Option.mem_toList.mp hc,
            hcheck⟩
        · obtain ⟨h, p, r, s, hp, hs, hcheck'⟩ := ih₂ c hc
          exact ⟨h, p, r, s, List.mem_cons_of_mem _ hp, hs, hcheck'⟩
    · exact ⟨fun x hx => .inl hx, by simp⟩

/-- **What is fetched** stands under the new heights. -/
theorem fetchHeights_eq_ok {config : Config} {node : FullNode} {n h : Nat}
    {pendings pendings' : List (Nat × PendingMessages)} (hsorted : SortedMap.Sorted pendings)
    (hok : fetchHeights config node n h pendings = .ok pendings') :
    SortedMap.Sorted pendings' ∧ ∀ x, x ∈ pendings' ↔
      x ∈ pendings ∧ ¬(h ≤ x.1 ∧ x.1 < h + n) ∨
      (h ≤ x.1 ∧ x.1 < h + n) ∧ getMessagesFromBlock config node x.1 = .ok x.2 := by
  induction n generalizing h pendings with
  | zero =>
    obtain rfl := Go.ok.inj hok
    refine ⟨hsorted, fun x => ?_⟩
    simp only [Nat.add_zero, show ¬(h ≤ x.1 ∧ x.1 < h) by omega, not_false_eq_true, and_true, false_and,
      or_false]
  | succ n ih =>
    obtain ⟨msgs, hmsgs, hok⟩ := Go.bind_eq_ok.mp hok
    obtain ⟨hsorted', hmem⟩ := ih (hsorted.insert h msgs) hok
    refine ⟨hsorted', fun x => ?_⟩
    rw [hmem, SortedMap.mem_insert hsorted]
    by_cases hx : x.1 = h
    · constructor
      · rintro (⟨rfl | ⟨-, hne⟩, -⟩ | ⟨hb, -⟩)
        · exact .inr ⟨⟨le_rfl, by omega⟩, hmsgs⟩
        · exact absurd hx hne
        · omega
      · rintro (⟨-, hb⟩ | ⟨-, hx'⟩)
        · omega
        · rw [hx, hmsgs] at hx'
          exact .inl ⟨.inl (Prod.ext hx (Go.ok.inj hx').symm), by omega⟩
    · have hbounds : (h + 1 ≤ x.1 ∧ x.1 < h + 1 + n) ↔ (h ≤ x.1 ∧ x.1 < h + (n + 1)) := by omega
      have hne : x ≠ (h, msgs) := fun heq => hx (congrArg Prod.fst heq)
      simp only [hbounds, hne, false_or, ne_eq, hx, not_false_eq_true, and_true]

/-- Every one of the heights is fetched. -/
theorem fetchHeights_fetches {config : Config} {node : FullNode} {n h : Nat}
    {pendings pendings' : List (Nat × PendingMessages)}
    (hok : fetchHeights config node n h pendings = .ok pendings') {height : Nat} (hle : h ≤ height)
    (hlt : height < h + n) : ∃ pending, getMessagesFromBlock config node height = .ok pending := by
  induction n generalizing h pendings with
  | zero => omega
  | succ n ih =>
    obtain ⟨msgs, hmsgs, hok⟩ := Go.bind_eq_ok.mp hok
    by_cases heq : height = h
    · exact ⟨msgs, heq ▸ hmsgs⟩
    · exact ih hok (by omega) (by omega)

/-- The keys that stay are among those there were. -/
theorem checkConfirmations_sorted {config : Config} {node : FullNode} {currentHeight : Nat}
    {pendings : List (Nat × PendingMessages)} (h : SortedMap.Sorted pendings) :
    SortedMap.Sorted (checkConfirmations config node currentHeight pendings).1 ∧
      ∀ x ∈ (checkConfirmations config node currentHeight pendings).1, ∃ p, (x.1, p) ∈ pendings := by
  induction pendings with
  | nil => simp [checkConfirmations, SortedMap.Sorted]
  | cons x pendings ih =>
    obtain ⟨height, pending⟩ := x
    obtain ⟨hx, hsorted⟩ := List.pairwise_cons.mp h
    obtain ⟨ih₁, ih₂⟩ := ih hsorted
    rw [checkConfirmations]
    split
    · rename_i remaining sent hcheck
      refine ⟨?_, fun y hy => ?_⟩
      · cases remaining with
        | none => exact ih₁
        | some p =>
          refine List.pairwise_cons.mpr ⟨fun y hy => ?_, ih₁⟩
          obtain ⟨p', hp'⟩ := ih₂ y hy
          exact hx (y.1, p') hp'
      · rcases List.mem_append.mp hy with hy | hy
        · obtain ⟨p, -, rfl⟩ := List.mem_map.mp hy
          exact ⟨pending, List.mem_cons_self ..⟩
        · obtain ⟨p, hp⟩ := ih₂ y hy
          exact ⟨p, List.mem_cons_of_mem _ hp⟩
    · exact ⟨h, fun y hy => ⟨y.2, hy⟩⟩

/-- **A tick** does nothing, sees no new height, stops, or polls the new heights. -/
theorem tick_cases (node : FullNode) (w : Watcher) :
    (w.stopped = true ∧ tick node w = w) ∨
    (∃ height, w.stopped = false ∧ node.currentHeight = .ok height ∧ height ≤ w.currentHeight ∧
      tick node w = { w with sharedHeight := height, currentHeight := height }) ∨
    (∃ height, tick node w = { w with sharedHeight := height, stopped := true }) ∨
    ∃ height pendings, w.stopped = false ∧ node.currentHeight = .ok height ∧
      w.currentHeight < height ∧ height ≠ 2 ^ 32 - 1 ∧
      fetchHeights w.config node (height - w.currentHeight) (w.currentHeight + 1) w.pendings
        = .ok pendings ∧
      tick node w = { w with
        sharedHeight := height
        currentHeight := height
        pendings := (checkConfirmations w.config node height pendings).1
        sent := w.sent ++ (checkConfirmations w.config node height pendings).2.1
        stopped := !(checkConfirmations w.config node height pendings).2.2 } := by
  rw [tick]
  split
  · rename_i hstopped
    exact .inl ⟨hstopped, rfl⟩
  · rename_i hgoes
    have hgoes : w.stopped = false := by simpa using hgoes
    split
    · rename_i height hheight
      simp only
      split
      · rename_i hle
        exact .inr (.inl ⟨height, hgoes, hheight, hle, rfl⟩)
      · rename_i hgt
        split
        · exact .inr (.inr (.inl ⟨height, rfl⟩))
        · rename_i hmax
          split
          · rename_i pendings hpendings
            exact .inr (.inr (.inr ⟨height, pendings, hgoes, hheight, by omega, hmax,
              hpendings, rfl⟩))
          · exact .inr (.inr (.inl ⟨height, rfl⟩))
    · exact .inr (.inr (.inl ⟨w.sharedHeight, rfl⟩))

end Wormhole.Guardian.Alephium
