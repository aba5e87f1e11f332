/-
# Wormhole.Guardian.ChainView — the chain behind the full node's answers.

A `View` is the chain at one moment: its height, and the canonical block at each height.  `Serves` says
that a full node answers from it; `PendingOf` is what the watcher then makes of a block.
-/
import Mathlib
import Wormhole.Lib.Bytes
import Wormhole.Lib.Go
import Wormhole.Guardian.AlephiumEvent
import Wormhole.Guardian.Validator
import Wormhole.Guardian.Watcher

namespace Wormhole.Guardian.Alephium

open Wormhole.Lib Wormhole.Lib.Bytes

/-! ## Views -/

structure Block where
  hash : Byte32
  timestamp : UInt64
  events : List Event
  blockHash_events : ∀ e ∈ events, e.blockHash = hash

/-- The chain at one moment. -/
structure View where
  height : Nat
  /-- the canonical block at a height -/
  block : Nat → Block

def Block.header (b : Block) (height : Nat) : BlockHeader :=
  { hash := b.hash, timestamp := b.timestamp, height }

/-- **What the full node answers is from the view.** A request may fail. -/
structure Serves (node : FullNode) (view : View) : Prop where
  currentHeight : ∀ h, node.currentHeight = .ok h → h = view.height
  /-- the canonical block first -/
  hashes : ∀ h hash orphans, node.hashes h = .ok (hash :: orphans) →
    h ≤ view.height ∧ hash = (view.block h).hash
  blockHeader : ∀ h ≤ view.height, ∀ header,
    node.blockHeader (view.block h).hash = .ok header → header = (view.block h).header h
  eventsFromBlock : ∀ h ≤ view.height, ∀ contract events,
    node.eventsFromBlock (view.block h).hash contract = .ok events →
    events = (view.block h).events.filter (·.contractAddress = contract)
  isBlockInMainChain : ∀ hash answer, node.isBlockInMainChain hash = .ok answer →
    (answer = true ↔ ∃ h ≤ view.height, (view.block h).hash = hash)

/-- The events of a block that the watcher asks for, in the order in which it asks. -/
def Block.watched (b : Block) (contracts : List ContractAddress) : List Event :=
  contracts.flatMap fun contract => b.events.filter (·.contractAddress = contract)

theorem Block.mem_watched {b : Block} {contracts : List ContractAddress} {e : Event} :
    e ∈ b.watched contracts ↔ e ∈ b.events ∧ e.contractAddress ∈ contracts := by
  simp only [watched, List.mem_flatMap, List.mem_filter, decide_eq_true_eq]
  constructor
  · rintro ⟨contract, hcontract, he, rfl⟩
    exact ⟨he, hcontract⟩
  · rintro ⟨he, hcontract⟩
    exact ⟨_, hcontract, he, rfl⟩

/-- The messages of a block, or those that are left of them. -/
structure PendingOf (config : Config) (b : Block) (height : Nat) (pending : PendingMessages) :
    Prop where
  blockHeader : pending.blockHeader = b.header height
  messages : ∀ msg ∈ pending.messages, msg.event ∈ b.watched config.contracts ∧
    messageFromEvent msg.event config.governanceContract config.minConfirmations8 = .ok msg
  empty : pending.messages = [] → b.watched config.contracts = []

section Serves

variable {node : FullNode} {view : View} {config : Config}

theorem Serves.getHashByHeight (h : Serves node view) {height : Nat} {hash : Byte32}
    (hok : Alephium.getHashByHeight node height = .ok hash) :
    height ≤ view.height ∧ hash = (view.block height).hash := by
  obtain ⟨orphans, hhashes⟩ := getHashByHeight_eq_ok.mp hok
  exact h.hashes height hash orphans hhashes

theorem Serves.getContractEvents (h : Serves node view) {height : Nat} (hle : height ≤ view.height)
    {contracts : List ContractAddress} {events : List Event}
    (hok : getContractEventsFromBlockHash node (view.block height).hash contracts = .ok events) :
    events = (view.block height).watched contracts := by
  induction contracts generalizing events with
  | nil => exact (Go.ok.inj hok).symm
  | cons contract contracts ih =>
    obtain ⟨first, hfirst, hok⟩ := Go.bind_eq_ok.mp hok
    obtain ⟨rest, hrest, hok⟩ := Go.bind_eq_ok.mp hok
    obtain rfl := Go.ok.inj hok
    rw [h.eventsFromBlock height hle contract first hfirst, ih hrest]
    rfl

/-- **What is fetched.** The messages of the canonical block. -/
theorem Serves.getMessagesFromBlock (h : Serves node view) {height : Nat} {pending : PendingMessages}
    (hok : Alephium.getMessagesFromBlock config node height = .ok pending) :
    height ≤ view.height ∧ PendingOf config (view.block height) height pending ∧
      pending.messages.map Message.event = (view.block height).watched config.contracts := by
  obtain ⟨hash, hhash, hok⟩ := getMessagesFromBlock_eq_ok hok
  obtain ⟨hle, rfl⟩ := h.getHashByHeight hhash
  obtain ⟨hheader, events, hevents, hmap, hall⟩ := getPendingMessageFromBlockHash_eq_ok hok
  obtain rfl := h.getContractEvents hle hevents
  rw [List.filter_eq_self.mpr fun _ _ => rfl] at hmap
  refine ⟨hle, ⟨h.blockHeader height hle _ hheader, fun msg hmsg => ⟨?_, hall msg hmsg⟩,
    fun hempty => ?_⟩, hmap⟩
  · exact hmap ▸ List.mem_map_of_mem hmsg
  · rw [← hmap, hempty, List.map_nil]

end Serves

/-! ## Inputs -/

/-- The hash is that of the block at the height it stands for. -/
abbrev View.Holds (view : View) (heightOf : Byte32 → Nat) (hash : Byte32) : Prop :=
  heightOf hash ≤ view.height ∧ (view.block (heightOf hash)).hash = hash

/-- A full node that answers from the view, and can tell the height from a hash. -/
def View.node (view : View) (heightOf : Byte32 → Nat) : FullNode where
  currentHeight := .ok view.height
  hashes := fun h => if h ≤ view.height then .ok [(view.block h).hash] else .error "request error"
  blockHeader := fun hash =>
    if view.Holds heightOf hash then .ok ((view.block (heightOf hash)).header (heightOf hash))
    else .error "request error"
  isBlockInMainChain := fun hash => .ok (decide (view.Holds heightOf hash))
  eventsFromBlock := fun hash contract =>
    if view.Holds heightOf hash then
      .ok ((view.block (heightOf hash)).events.filter (·.contractAddress = contract))
    else .error "request error"
  transactionStatus := fun txId =>
    match (List.range (view.height + 1)).find? fun h =>
      (view.block h).events.any fun e => e.txId = txId with
    | some h => .ok (view.block h).hash
    | none => .error "request error"
  contractState := fun _ => .error "request error"

section Node

variable {view : View} {heightOf : Byte32 → Nat}
  (hheightOf : ∀ h ≤ view.height, heightOf (view.block h).hash = h)

include hheightOf

theorem View.holds {h : Nat} (hle : h ≤ view.height) : view.Holds heightOf (view.block h).hash := by
  rw [Holds, hheightOf h hle]
  exact ⟨hle, rfl⟩

theorem View.node_serves : Serves (view.node heightOf) view where
  currentHeight := fun _ h => (Go.ok.inj h).symm
  hashes := fun h hash orphans hhashes => by
    simp only [node] at hhashes
    split at hhashes
    · rename_i hle
      exact ⟨hle, (List.cons.inj (Go.ok.inj hhashes)).1.symm⟩
    · cases hhashes
  blockHeader := fun h hle header hheader => by
    simp only [node, if_pos (holds hheightOf hle), hheightOf h hle, Go.ok.injEq] at hheader
    exact hheader.symm
  eventsFromBlock := fun h hle contract events hevents => by
    simp only [node, if_pos (holds hheightOf hle), hheightOf h hle, Go.ok.injEq] at hevents
    exact hevents.symm
  isBlockInMainChain := fun hash answer hanswer => by
    obtain rfl := Go.ok.inj hanswer
    rw [decide_eq_true_eq]
    constructor
    · exact fun hholds => ⟨heightOf hash, hholds⟩
    · rintro ⟨h, hle, rfl⟩
      exact holds hheightOf hle

/-- Its headers are those of the heights asked for. -/
theorem View.node_headers {height : Nat} {hash : Byte32} {header : BlockHeader}
    (hhash : Alephium.getHashByHeight (view.node heightOf) height = .ok hash)
    (hheader : (view.node heightOf).blockHeader hash = .ok header) : header.height = height := by
  obtain ⟨hle, rfl⟩ := (node_serves hheightOf).getHashByHeight hhash
  rw [(node_serves hheightOf).blockHeader height hle header hheader, Block.header]

end Node

/-- Its events are those of the block with the header. -/
theorem View.node_events {view : View} {heightOf : Byte32 → Nat} {hash : Byte32}
    {header : BlockHeader} {contract : ContractAddress} {events : List Event}
    (hheader : (view.node heightOf).blockHeader hash = .ok header)
    (hevents : (view.node heightOf).eventsFromBlock hash contract = .ok events) {event : Event}
    (hevent : event ∈ events) :
    header.height ≤ view.height ∧ event ∈ (view.block header.height).events := by
  simp only [node] at hheader hevents
  split at hheader
  · rename_i hholds
    rw [if_pos hholds] at hevents
    obtain rfl := Go.ok.inj hheader
    obtain rfl := Go.ok.inj hevents
    exact ⟨hholds.1, (List.mem_filter.mp hevent).1⟩
  · cases hheader

theorem sampleBlock_events (hash : Byte32) (es : List ChainEvent) : ∀ e ∈ es.map fun e => ({
    blockHash := hash
    contractAddress := e.contract freshValidator
    txId := ⟨List.replicate 32 0x02, sampleTxId_length⟩
    fields := e.fields } : Event), e.blockHash = hash := by
  simp

/-- A block that holds these events of the three contracts. -/
def sampleBlock (hash : Byte32) (es : List ChainEvent) : Block where
  hash
  timestamp := 1000
  events := es.map fun e => {
    blockHash := hash
    contractAddress := e.contract freshValidator
    txId := ⟨List.replicate 32 0x02, sampleTxId_length⟩
    fields := e.fields }
  blockHash_events := sampleBlock_events hash es

/-- A chain of this height with these events. -/
def sampleView (height : Nat) (events : Nat → List ChainEvent) : View where
  height
  block := fun h => sampleBlock ⟨beBytes 32 h, beBytes_length ..⟩ (events h)

theorem sampleView_heightOf {height : Nat} (events : Nat → List ChainEvent)
    (hheight : height < 256 ^ 32) :
    ∀ h ≤ height, beNat ((sampleView height events).block h).hash.val = h :=
  fun _ hle => beNat_beBytes (Nat.lt_of_le_of_lt hle hheight)

def sampleNode (height : Nat) (events : Nat → List ChainEvent) : FullNode :=
  (sampleView height events).node fun hash => beNat hash.val

/-- A watcher of the three contracts that has not started yet. -/
def freshWatcher (minConfirmations : UInt64) : Watcher where
  config := {
    governanceContract := freshValidator.governanceContract
    tokenBridgeContract := freshValidator.tokenBridgeContract
    tokenWrapperFactoryContract := freshValidator.tokenWrapperFactoryContract
    initHeight := 0
    minConfirmations }
  sharedHeight := 0
  currentHeight := 0
  pendings := []
  stopped := true
  observing := none
  sent := []

end Wormhole.Guardian.Alephium
