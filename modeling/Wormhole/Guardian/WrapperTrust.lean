/-
# Wormhole.Guardian.WrapperTrust — which token wrappers the node trusts.

The token bridge on Alephium and the node that watches it, together: a world of contracts leaves a log
of events, and a validator handles them in batches, in any order.  Two questions are asked of every run.
Does an accepted transfer message come from a wrapper that belongs to a registered chain?
(`genuineWrappers`)  And is the message of every such wrapper accepted?  (`transferPublished`)
-/
import Mathlib
import Wormhole.Lib.Bytes
import Wormhole.Lib.Go
import Wormhole.Lib.Mapping
import Wormhole.Lib.Transition
import Wormhole.Alephium.Vm
import Wormhole.Alephium.Governance
import Wormhole.Alephium.TokenBridge
import Wormhole.Alephium.World
import Wormhole.Alephium.Wrapper
import Wormhole.Alephium.Publication
import Wormhole.Guardian.AlephiumEvent
import Wormhole.Guardian.Validator

namespace Wormhole.Guardian.Alephium

open Wormhole.Lib Wormhole.Lib.Bytes Wormhole.Lib.Transition
open Wormhole.Alephium Wormhole.Alephium.Vm

/-! ## The node on the log -/

/-- The event is one the world's contracts have emitted.  The state of a `TokenBridgeForChain` is read
when the event is handled. -/
def Emitted (w : World) : ChainEvent → Prop
  | .message m => ∃ origin, .published origin m ∈ w.log
  | .tokenBridgeForChainCreated id s => w.Registered id ∧
      ∃ s', w.bridgeAt id = some s' ∧ s.remoteChainId = s'.remoteChainId
  | .tokenWrapperCreated id s => w.Wrapped id ∧ w.wrapperAt id = some s

/-- **The node watches the world.** A validator that has started with an empty store and handled the
events `handled` of the world: in batches, and those that were due at a restart before the first
batch. -/
inductive Watches (w : World) (client : Client) : List ChainEvent → Validator → Prop where
  | start (v : Validator) (hconfigured : v.Configured)
      (hchain : ∀ chainId, v.db (chainKey chainId) = none)
      (hwrapper : ∀ tokenId, v.db (tokenWrapperKey tokenId) = none)
      (hchainCache : ∀ chainId, v.remoteChainCache chainId = none)
      (hwrapperCache : ∀ tokenId, v.tokenWrapperCache tokenId = none) : Watches w client [] v
  | round {handled : List ChainEvent} {v v' : Validator} (h : Watches w client handled v)
      (es : List ChainEvent) (confirmed : ConfirmedMessages) (hdelivers : Delivers v es confirmed)
      (hemitted : ∀ e ∈ es, Emitted w e) (hclient : ∀ e ∈ es, e.Answered client)
      (hround : round client v confirmed = .ok v') : Watches w client (handled ++ es) v'
  | restart {handled : List ChainEvent} {v : Validator} (h : Watches w client handled v)
      (es : List ChainEvent) (hemitted : ∀ e ∈ es, Emitted w e) (hharmless : ∀ e ∈ es, e.Harmless)
      (heights : Batch) (hheights : ∀ kv ∈ heights, kv.1 = lastBlockHeightKey) (fromHeight : Nat) :
      Watches w client (handled ++ es) { v with
        remoteChainCache := fun _ => none
        tokenWrapperCache := fun _ => none
        db := writeBatch v.db (es.flatMap ChainEvent.writes ++ heights)
        fromHeight
        blocks := fun _ => none }

/-- The validator `v` is about to handle an event, perhaps in the middle of a batch. -/
def Handling (w : World) (client : Client) (handled : List ChainEvent) (v : Validator) : Prop :=
  ∃ v₀ es confirmed batch, Watches w client handled v₀ ∧ Delivers v₀ es confirmed ∧
    (∀ e ∈ es, Emitted w e) ∧ (∀ e ∈ es, e.Answered client) ∧
    handleEvents client confirmed.blockHeader confirmed.messages (v₀, []) = .ok (v, batch)

/-- **What the node has recorded** are contracts that the watched contracts have created. -/
structure Recorded (w : World) (v : Validator) : Prop where
  chain : ∀ chainId address, v.db (chainKey chainId) = some address →
    ∃ id, address = contractAddress id ∧ w.Registered id
  wrapper : ∀ tokenId address, v.db (tokenWrapperKey tokenId) = some address →
    ∃ id, address = contractAddress id ∧ w.WrapperFor id tokenId.val
  chainCache : ∀ chainId id, v.remoteChainCache chainId = some id → w.Registered id
  wrapperCache : ∀ tokenId id, v.tokenWrapperCache tokenId = some id → w.WrapperFor id tokenId.val

theorem toContractId_contractAddress (id : Byte32) : toContractId (contractAddress id) = .ok id := by
  rw [toContractId_of_length (by simp [contractAddress, id.property])]
  rfl

section Recorded

variable {w : World} {client : Client} {v v' : Validator}

theorem Recorded.getRemoteChain (h : Recorded w v) {chainId : UInt16}
    {result : Except String Byte32}
    (hget : Alephium.getRemoteChain v chainId = .ok (v', result)) :
    Recorded w v' ∧ ∀ id, result = .ok id → w.Registered id := by
  unfold Alephium.getRemoteChain at hget
  split at hget
  · rename_i id hid
    obtain ⟨rfl, rfl⟩ := Prod.mk.inj (Go.ok.inj hget)
    refine ⟨h, fun id' hid' => ?_⟩
    obtain rfl := Except.ok.inj hid'
    exact h.chainCache chainId _ hid
  · split at hget
    · obtain ⟨rfl, rfl⟩ := Prod.mk.inj (Go.ok.inj hget)
      exact ⟨h, fun id hid => by cases hid⟩
    · rename_i address haddress
      obtain ⟨id, rfl, hid⟩ := h.chain chainId address haddress
      rw [toContractId_contractAddress, Go.ok_bind] at hget
      obtain ⟨rfl, rfl⟩ := Prod.mk.inj (Go.ok.inj hget)
      refine ⟨⟨h.chain, h.wrapper, fun c id' hid' => ?_, h.wrapperCache⟩, fun id' hid' => ?_⟩
      · rcases Mapping.update_eq_some hid' with ⟨-, rfl⟩ | hold
        · exact hid
        · exact h.chainCache c id' hold
      · obtain rfl := Except.ok.inj hid'
        exact hid

theorem Recorded.getTokenWrapper (h : Recorded w v) {tokenId : Byte32}
    {result : Except String Byte32}
    (hget : Alephium.getTokenWrapper v tokenId = .ok (v', result)) :
    Recorded w v' ∧ ∀ id, result = .ok id → w.WrapperFor id tokenId.val := by
  unfold Alephium.getTokenWrapper at hget
  split at hget
  · rename_i id hid
    obtain ⟨rfl, rfl⟩ := Prod.mk.inj (Go.ok.inj hget)
    refine ⟨h, fun id' hid' => ?_⟩
    obtain rfl := Except.ok.inj hid'
    exact h.wrapperCache tokenId _ hid
  · split at hget
    · obtain ⟨rfl, rfl⟩ := Prod.mk.inj (Go.ok.inj hget)
      exact ⟨h, fun id hid => by cases hid⟩
    · rename_i address haddress
      obtain ⟨id, rfl, hid⟩ := h.wrapper tokenId address haddress
      rw [toContractId_contractAddress, Go.ok_bind] at hget
      obtain ⟨rfl, rfl⟩ := Prod.mk.inj (Go.ok.inj hget)
      refine ⟨⟨h.chain, h.wrapper, h.chainCache, fun t id' hid' => ?_⟩, fun id' hid' => ?_⟩
      · rcases Mapping.update_eq_some hid' with ⟨rfl, rfl⟩ | hold
        · exact hid
        · exact h.wrapperCache t id' hold
      · obtain rfl := Except.ok.inj hid'
        exact hid

/-- **Validation.** An accepted transfer names the recorded contract as its sender. -/
theorem Recorded.validateTransferMessage (h : Recorded w v) {m : TransferMessage}
    {result : Except String Unit}
    (hvalidate : Alephium.validateTransferMessage v m = .ok (v', result)) :
    Recorded w v' ∧ (result = .ok () → if m.isNativeToken then w.Registered m.senderId
      else w.WrapperFor m.senderId m.tokenId.val) := by
  obtain ⟨⟨v₁, contractId⟩, hsender, hrest⟩ := Go.bind_eq_ok.mp hvalidate
  have hexpected : Recorded w v₁ ∧ ∀ id, contractId = .ok id →
      if m.isNativeToken then w.Registered id else w.WrapperFor id m.tokenId.val := by
    unfold expectedSender at hsender
    split at hsender
    · rename_i hnative
      obtain ⟨hrecorded, hid⟩ := h.getRemoteChain hsender
      exact ⟨hrecorded, fun id heq => by rw [if_pos hnative]; exact hid id heq⟩
    · rename_i hremote
      obtain ⟨hrecorded, hid⟩ := h.getTokenWrapper hsender
      exact ⟨hrecorded, fun id heq => by rw [if_neg hremote]; exact hid id heq⟩
  cases contractId with
  | error reason =>
    obtain ⟨rfl, rfl⟩ := Prod.mk.inj (Go.ok.inj hrest)
    exact ⟨hexpected.1, fun hok => by cases hok⟩
  | ok id =>
    simp only at hrest
    by_cases hid : id = m.senderId
    · rw [if_pos hid] at hrest
      obtain ⟨rfl, rfl⟩ := Prod.mk.inj (Go.ok.inj hrest)
      exact ⟨hexpected.1, fun _ => hexpected.2 m.senderId (by rw [hid])⟩
    · rw [if_neg hid] at hrest
      obtain ⟨rfl, rfl⟩ := Prod.mk.inj (Go.ok.inj hrest)
      exact ⟨hexpected.1, fun hok => by cases hok⟩

theorem Recorded.publish (h : Recorded w v) {msg : WormholeMessage} {header : BlockHeader}
    (hpublish : Alephium.publish v msg header = .ok v') : Recorded w v' := by
  obtain ⟨_, -, heq⟩ := Go.bind_eq_ok.mp hpublish
  obtain rfl := Go.ok.inj heq
  exact ⟨h.chain, h.wrapper, h.chainCache, h.wrapperCache⟩

theorem Recorded.handleGovernanceEvent (h : Recorded w v) {event : Event} {header : BlockHeader}
    (hhandle : Alephium.handleGovernanceEvent v event header = .ok v') : Recorded w v' := by
  obtain ⟨msg, -, hhandle⟩ := Go.bind_eq_ok.mp hhandle
  obtain ⟨isTransfer, -, hhandle⟩ := Go.bind_eq_ok.mp hhandle
  split at hhandle
  · obtain ⟨transferMsg, -, hhandle⟩ := Go.bind_eq_ok.mp hhandle
    obtain ⟨⟨v₁, result⟩, hvalidate, hhandle⟩ := Go.bind_eq_ok.mp hhandle
    have hrecorded := (h.validateTransferMessage hvalidate).1
    cases result with
    | error reason =>
      obtain rfl := Go.ok.inj hhandle
      exact hrecorded
    | ok _ => exact hrecorded.publish hhandle
  · exact h.publish hhandle

/-- Handling events leaves the store alone, and the caches in keeping with it. -/
theorem Recorded.handleEvents (h : Recorded w v) {header : BlockHeader} {events : List Event}
    {batch batch' : Batch}
    (hhandle : Alephium.handleEvents client header events (v, batch) = .ok (v', batch')) :
    Recorded w v' := by
  induction events generalizing v batch with
  | nil =>
    obtain ⟨rfl, -⟩ := Prod.mk.inj (Go.ok.inj hhandle)
    exact h
  | cons event events ih =>
    obtain ⟨⟨v₁, batch₁⟩, hevent, hrest⟩ := Go.bind_eq_ok.mp hhandle
    refine ih ?_ hrest
    -- only a message touches the validator
    simp only [handleEvent] at hevent
    split at hevent
    · obtain ⟨v₂, hmessage, heq⟩ := Go.bind_eq_ok.mp hevent
      obtain ⟨rfl, -⟩ := Prod.mk.inj (Go.ok.inj heq)
      exact h.handleGovernanceEvent hmessage
    · split at hevent
      · obtain ⟨_, -, heq⟩ := Go.bind_eq_ok.mp hevent
        obtain ⟨rfl, -⟩ := Prod.mk.inj (Go.ok.inj heq)
        exact h
      · split at hevent
        · obtain ⟨_, -, heq⟩ := Go.bind_eq_ok.mp hevent
          obtain ⟨rfl, -⟩ := Prod.mk.inj (Go.ok.inj heq)
          exact h
        · obtain ⟨rfl, -⟩ := Prod.mk.inj (Go.ok.inj hevent)
          exact h

/-! ### The store -/

/-- What an event of the world writes behind a chain. -/
theorem Emitted.chain {e : ChainEvent} (h : Emitted w e) {chainId : UInt16} {address : List UInt8}
    (hmem : (chainKey chainId, address) ∈ e.writes) :
    ∃ id, address = contractAddress id ∧ w.Registered id := by
  cases e with
  | message m => cases hmem
  | tokenBridgeForChainCreated id s =>
    exact ⟨id, congrArg Prod.snd (List.mem_singleton.mp hmem), h.1⟩
  | tokenWrapperCreated id s =>
    rw [ChainEvent.writes] at hmem
    split at hmem
    · have hkey := congrArg Prod.fst (List.mem_singleton.mp hmem)
      exact absurd hkey (chainKey_ne_tokenWrapperKey _ _)
    · cases hmem

/-- What it writes behind a token. -/
theorem Emitted.wrapper {e : ChainEvent} (h : Emitted w e) {tokenId : Byte32} {address : List UInt8}
    (hmem : (tokenWrapperKey tokenId, address) ∈ e.writes) :
    ∃ id, address = contractAddress id ∧ w.WrapperFor id tokenId.val := by
  cases e with
  | message m => cases hmem
  | tokenBridgeForChainCreated id s =>
    have hkey := congrArg Prod.fst (List.mem_singleton.mp hmem)
    exact absurd hkey.symm (chainKey_ne_tokenWrapperKey _ _)
  | tokenWrapperCreated id s =>
    rw [ChainEvent.writes] at hmem
    split at hmem
    · have hentry := List.mem_singleton.mp hmem
      obtain rfl := tokenWrapperKey_injective (congrArg Prod.fst hentry)
      exact ⟨id, congrArg Prod.snd hentry, h.1, s, h.2, rfl⟩
    · cases hmem

/-- **Writing down** the events of the world. -/
theorem Recorded.write (h : Recorded w v) {es : List ChainEvent} (hemitted : ∀ e ∈ es, Emitted w e)
    {heights : Batch} (hheights : ∀ kv ∈ heights, kv.1 = lastBlockHeightKey)
    (hdb : v'.db = writeBatch v.db (es.flatMap ChainEvent.writes ++ heights))
    (hchainCache : ∀ chainId id, v'.remoteChainCache chainId = some id →
      v.remoteChainCache chainId = some id)
    (hwrapperCache : ∀ tokenId id, v'.tokenWrapperCache tokenId = some id →
      v.tokenWrapperCache tokenId = some id) : Recorded w v' := by
  refine ⟨fun chainId address haddress => ?_, fun tokenId address haddress => ?_,
    fun chainId id hid => h.chainCache chainId id (hchainCache chainId id hid),
    fun tokenId id hid => h.wrapperCache tokenId id (hwrapperCache tokenId id hid)⟩
  · rw [hdb] at haddress
    rcases writeBatch_eq_some haddress with hold | hmem
    · exact h.chain chainId address hold
    · rcases List.mem_append.mp hmem with hmem | hmem
      · obtain ⟨e, he, hmem⟩ := List.mem_flatMap.mp hmem
        exact (hemitted e he).chain hmem
      · exact absurd (hheights _ hmem).symm (lastBlockHeightKey_ne_chainKey chainId)
  · rw [hdb] at haddress
    rcases writeBatch_eq_some haddress with hold | hmem
    · exact h.wrapper tokenId address hold
    · rcases List.mem_append.mp hmem with hmem | hmem
      · obtain ⟨e, he, hmem⟩ := List.mem_flatMap.mp hmem
        exact (hemitted e he).wrapper hmem
      · exact absurd (hheights _ hmem).symm (lastBlockHeightKey_ne_tokenWrapperKey tokenId)

theorem Recorded.validAddresses (h : Recorded w v) : ValidAddresses v.db := by
  constructor
  · intro chainId address haddress
    obtain ⟨id, rfl, -⟩ := h.chain chainId address haddress
    simp [contractAddress, id.property]
  · intro tokenId address haddress
    obtain ⟨id, rfl, -⟩ := h.wrapper tokenId address haddress
    simp [contractAddress, id.property]

/-- A round of events of the world: what is handled, and what is written. -/
theorem Recorded.round (h : Recorded w v) (hconfigured : v.Configured) {es : List ChainEvent}
    {confirmed : ConfirmedMessages} (hdelivers : Delivers v es confirmed)
    (hemitted : ∀ e ∈ es, Emitted w e) (hclient : ∀ e ∈ es, e.Answered client)
    (hround : Alephium.round client v confirmed = .ok v') :
    v'.Configured ∧ Recorded w v' ∧ (∀ e ∈ es, e.Harmless) ∧
      ∃ heights, v'.db = writeBatch v.db (es.flatMap ChainEvent.writes ++ heights) := by
  obtain ⟨⟨v₁, batch⟩, hhandle, heq⟩ := Go.bind_eq_ok.mp hround
  obtain rfl := Go.ok.inj heq
  rcases handleEvents_cases confirmed.blockHeader hconfigured h.validAddresses [] hdelivers hclient
    with ⟨hharmless, v₂, hok, hsame⟩ | ⟨-, hno⟩
  · obtain ⟨rfl, rfl⟩ := Prod.mk.inj (Go.ok.inj (hok.symm.trans hhandle))
    have hv₁ := h.handleEvents hhandle
    obtain ⟨heights, hheights, hdb⟩ := finishRound_db v₂ confirmed ([] ++ es.flatMap ChainEvent.writes)
    obtain ⟨hchainCache, hwrapperCache⟩ :=
      finishRound_caches v₂ confirmed ([] ++ es.flatMap ChainEvent.writes)
    obtain ⟨h₁, h₂, h₃⟩ := finishRound_contracts v₂ confirmed ([] ++ es.flatMap ChainEvent.writes)
    have hconfigured₂ := hsame.configured hconfigured
    refine ⟨⟨by rw [h₁, h₂]; exact hconfigured₂.1, by rw [h₁, h₃]; exact hconfigured₂.2,
      by rw [h₂, h₃]; exact hconfigured₂.3⟩, ?_, hharmless, heights, by rw [hdb, hsame.db]; rfl⟩
    exact hv₁.write hemitted hheights hdb (fun _ _ hid => hchainCache ▸ hid)
      fun _ _ hid => hwrapperCache ▸ hid
  · exact absurd ⟨_, hhandle⟩ hno

/-- **Run.** A node that watches the world has recorded contracts of the world only. -/
theorem Watches.recorded {handled : List ChainEvent} (h : Watches w client handled v) :
    v.Configured ∧ Recorded w v := by
  induction h with
  | start v hconfigured hchain hwrapper hchainCache hwrapperCache =>
    refine ⟨hconfigured, ⟨fun chainId _ h => ?_, fun tokenId _ h => ?_, fun chainId _ h => ?_,
      fun tokenId _ h => ?_⟩⟩
    · simp [hchain chainId] at h
    · simp [hwrapper tokenId] at h
    · simp [hchainCache chainId] at h
    · simp [hwrapperCache tokenId] at h
  | round _ es confirmed hdelivers hemitted hclient hround ih =>
    obtain ⟨hconfigured, hrecorded, -⟩ := ih.2.round ih.1 hdelivers hemitted hclient hround
    exact ⟨hconfigured, hrecorded⟩
  | restart _ es hemitted hharmless heights hheights fromHeight ih =>
    exact ⟨⟨ih.1.1, ih.1.2, ih.1.3⟩, ih.2.write hemitted hheights rfl
      (fun _ _ hid => by cases hid) fun _ _ hid => by cases hid⟩

theorem Handling.recorded {handled : List ChainEvent} (h : Handling w client handled v) :
    Recorded w v := by
  obtain ⟨v₀, es, confirmed, batch, hwatches, -, -, -, hhandle⟩ := h
  exact hwatches.recorded.2.handleEvents hhandle

end Recorded

/-! ## Accepted transfers -/

/-- The message of a wrapper, as the node reads it. -/
theorem transferMessageFromBytes_transfer {s : TokenWrapper.State} {toAddress nonce data : ByteVec}
    {amount arbiterFee : Nat}
    (h : TokenWrapper.transfer s toAddress amount arbiterFee nonce = some data) {token : Byte32}
    (htoken : s.tokenContractId = token.val) (wrapper : Byte32) :
    ∃ t, transferMessageFromBytes (data ++ wrapper.val) = .ok t ∧ t.tokenId = token ∧
      t.isNativeToken = s.isLocalToken ∧ t.senderId = wrapper := by
  obtain ⟨haddress, -, amountBytes, chainBytes, remoteBytes, feeBytes, rfl⟩ :=
    TokenWrapper.transfer_eq_some h
  have hlayout : [0x01] ++ amountBytes.val ++ s.tokenContractId ++ chainBytes.val ++ toAddress ++
      remoteBytes.val ++ feeBytes.val ++ TokenWrapper.byteVecOfBool s.isLocalToken ++ wrapper.val =
      TransferMessage.bytes amountBytes token chainBytes ⟨toAddress, haddress⟩ remoteBytes feeBytes
        (if s.isLocalToken then 0x01 else 0x00) wrapper ++ [] := by
    simp [TransferMessage.bytes, htoken, TokenWrapper.byteVecOfBool]
  rw [hlayout, transferMessageFromBytes_bytes]
  refine ⟨_, rfl, rfl, ?_, rfl⟩
  cases s.isLocalToken <;> rfl

theorem publishMessage_data_drop {caller : Byte32} {sequence consistencyLevel : Nat}
    {nonce payload : ByteVec} (h : nonce.length = 4) :
    (Governance.publishMessage caller sequence nonce payload consistencyLevel).data.drop 4 = payload :=
  List.drop_left' h

/-- What the node reads from a message names its origin as the sender. -/
def Senders (w : World) : Prop :=
  ∀ origin m t, .published origin m ∈ w.log → transferMessageFromBytes (m.data.drop 4) = .ok t →
    t.senderId = origin

/-- **Authentic calls.** Only registered endpoints ask for wrappers, and what is published as a
transfer names its own publisher. -/
structure Authentic (crypto : Governance.Crypto) (w : World) (tx : Tx) : Prop where
  factory : ∀ caller tokenId, wrapRequest crypto w tx = some (caller, tokenId) → w.Registered caller
  direct : ∀ caller sequence nonce payload consistencyLevel t,
    tx.call = .publishMessage caller sequence nonce payload consistencyLevel →
    transferMessageFromBytes ((nonce ++ payload).drop 4) = .ok t → t.senderId = caller
  transfer : ∀ wrapper toAddress amount arbiterFee nonce consistencyLevel s,
    tx.call = .transfer wrapper toAddress amount arbiterFee nonce consistencyLevel →
    w.wrapperAt wrapper = some s → s.tokenContractId.length = 32

section Trust

variable {crypto : Governance.Crypto} {distance : Nat} {w₀ w w' : World} {tx : Tx} {client : Client}
  {handled : List ChainEvent} {v : Validator}

theorem Senders.effect (h : Senders w) (hok : Authentic crypto w tx)
    (heffect : Effect crypto distance w tx w') : Senders w' := by
  intro origin m t hm hread
  rcases heffect.published hm with hm | hm
  · exact h origin m t hm hread
  · cases hm with
    | direct _ sequence nonce payload consistencyLevel hcall hcaller =>
      exact hok.direct origin sequence nonce payload consistencyLevel t hcall hread
    | attest sequence nonce rest consistencyLevel hnonce =>
      -- an attestation does not read as a transfer
      rw [publishMessage_data_drop hnonce] at hread
      simp [transferMessageFromBytes, assume, Go.assume, transferPayloadId] at hread
    | transfer _ toAddress amount arbiterFee nonce consistencyLevel s data sequence hcall hs hdata =>
      have hnonce := (TokenWrapper.transfer_eq_some hdata).2.1
      have htoken := hok.transfer origin toAddress amount arbiterFee nonce consistencyLevel s hcall hs
      obtain ⟨t', ht', -, -, hsender⟩ :=
        @transferMessageFromBytes_transfer _ _ _ _ _ _ hdata ⟨s.tokenContractId, htoken⟩ rfl origin
      rw [publishMessage_data_drop hnonce, ht'] at hread
      obtain rfl := Go.ok.inj hread
      exact hsender

/-- **Genuine wrappers only.** In every run of authentic calls from a fresh world, each wrapper of the
factory names a registered endpoint of its remote chain; and whenever a node that watches the world
accepts a published transfer message, the message comes from such a wrapper. -/
theorem genuineWrappers (hfresh : w₀.Fresh)
    (hrun : Run (Wormhole.Alephium.step crypto distance) (Authentic crypto) w₀ w) :
    (∀ id, w.Wrapped id → w.Paired id) ∧
    ∀ client handled v, Handling w client handled v → ∀ origin m t v', .published origin m ∈ w.log →
      transferMessageFromBytes (m.data.drop 4) = .ok t →
      validateTransferMessage v t = .ok (v', .ok ()) → w.Wrapped origin ∧ w.Paired origin := by
  obtain ⟨horigins, hpaired, hsenders⟩ :
      Origins w ∧ (∀ id, w.Wrapped id → w.Paired id) ∧ Senders w := by
    refine hrun.invariant
      (I := fun w => Origins w ∧ (∀ id, w.Wrapped id → w.Paired id) ∧ Senders w)
      (fun w tx w' h hok hstep => ?_) ⟨.of_fresh hfresh, fun id hid => ?_, fun origin m t hm => ?_⟩
    · have heffect := step_effect hstep
      exact ⟨h.1.effect heffect, fun id hid =>
        heffect.paired_of_wrapped h.1 hok.factory h.2.1 hid, h.2.2.effect hok heffect⟩
    · simp [World.Wrapped, hfresh.log] at hid
    · simp [hfresh.log] at hm
  refine ⟨hpaired, fun client handled v hhandling origin m t v' hm hread hvalidate => ?_⟩
  have haccepted := (hhandling.recorded.validateTransferMessage hvalidate).2 rfl
  rw [hsenders origin m t hm hread] at haccepted
  split at haccepted
  · -- an endpoint publishes nothing
    obtain ⟨s, hs⟩ := Option.isSome_iff_exists.mp (horigins.registered origin haccepted)
    obtain ⟨c, hc, hbridge⟩ := horigins.published origin m hm
    rw [World.bridgeAt_eq_some, hc] at hs
    exact absurd (Option.some.inj hs) (hbridge s)
  · exact ⟨haccepted.1, hpaired origin haccepted.1⟩

/-! ## Every transfer -/

/-- **Transferable tokens.** No wrapper is asked for a token that has one, and the wrappers of the
factory transfer remote tokens only. -/
structure Transferable (crypto : Governance.Crypto) (w : World) (tx : Tx) : Prop where
  factory : ∀ caller tokenId, wrapRequest crypto w tx = some (caller, tokenId) →
    ∀ id, ¬w.WrapperFor id tokenId
  transfer : ∀ wrapper toAddress amount arbiterFee nonce consistencyLevel s,
    tx.call = .transfer wrapper toAddress amount arbiterFee nonce consistencyLevel →
    w.Wrapped wrapper → w.wrapperAt wrapper = some s → s.isLocalToken = false

/-- What a wrapper of the factory has published is a transfer of its remote token. -/
def RemoteTransfers (w : World) : Prop :=
  ∀ origin m s, .published origin m ∈ w.log → w.Wrapped origin → w.wrapperAt origin = some s →
    ∀ token : Byte32, s.tokenContractId = token.val → ∃ t,
      transferMessageFromBytes (m.data.drop 4) = .ok t ∧ t.tokenId = token ∧
        t.isNativeToken = false ∧ t.senderId = origin

theorem RemoteTransfers.effect (h : RemoteTransfers w) (horigins : Origins w)
    (hok : Transferable crypto w tx) (heffect : Effect crypto distance w tx w') :
    RemoteTransfers w' := by
  intro origin m s hm hwrapped hs token htoken
  -- a contract that publishes exists, so it is not the wrapper that the call creates
  have hbefore : ∀ c, w.contracts origin = some c → w.Wrapped origin := by
    intro c hc
    obtain ⟨new, hnew⟩ := heffect.wrapped
    refine (hnew origin hwrapped).resolve_right fun ⟨_, hnone, _⟩ => ?_
    rw [hnone] at hc
    cases hc
  rcases heffect.published hm with hm | hm
  · obtain ⟨c, hc, -⟩ := horigins.published origin m hm
    exact h origin m s hm (hbefore c hc) (horigins.wrapperAt_of_effect heffect hm hs) token htoken
  · cases hm with
    | direct _ sequence nonce payload consistencyLevel hcall hcaller =>
      rw [World.wrapperAt_eq_some, heffect.contracts hcaller (by simp)] at hs
      simp at hs
    | attest sequence nonce rest consistencyLevel hnonce =>
      rw [World.wrapperAt_eq_some, heffect.contracts horigins.tokenBridge (by simp)] at hs
      simp at hs
    | transfer _ toAddress amount arbiterFee nonce consistencyLevel s' data sequence hcall hs' hdata =>
      obtain rfl : s' = s := Option.some.inj ((heffect.wrapperAt hs').symm.trans hs)
      have hlocal := hok.transfer origin toAddress amount arbiterFee nonce consistencyLevel s' hcall
        (hbefore _ (World.wrapperAt_eq_some.mp hs')) hs'
      have hnonce := (TokenWrapper.transfer_eq_some hdata).2.1
      obtain ⟨t, ht, htokenId, hnative, hsender⟩ :=
        transferMessageFromBytes_transfer hdata htoken origin
      rw [publishMessage_data_drop hnonce]
      exact ⟨t, ht, htokenId, hnative.trans hlocal, hsender⟩

theorem writeBatch_ne_none {db : Db} {b : Batch} {key : List UInt8} (h : db key ≠ none) :
    writeBatch db b key ≠ none := by
  induction b generalizing db with
  | nil => exact h
  | cons kv b ih =>
    refine @ih (Function.update db kv.1 (some kv.2)) ?_
    rw [← Option.isSome_iff_ne_none] at h ⊢
    exact Mapping.isSome_update h

theorem writeBatch_ne_none_of_mem {db : Db} {b : Batch} {kv : List UInt8 × List UInt8}
    (h : kv ∈ b) : writeBatch db b kv.1 ≠ none := by
  induction b generalizing db with
  | nil => cases h
  | cons kv' b ih =>
    rcases List.mem_cons.mp h with rfl | h
    · refine @writeBatch_ne_none (Function.update db kv.1 (some kv.2)) _ _ ?_
      rw [← Option.isSome_iff_ne_none]
      exact Mapping.isSome_update_self
    · exact ih h

/-- **Run.** What has been handled is in the store. -/
theorem Watches.stored (h : Watches w client handled v) : ∀ e ∈ handled, Emitted w e ∧ e.Harmless ∧
    ∀ kv ∈ e.writes, v.db kv.1 ≠ none := by
  have hmem : ∀ {es : List ChainEvent} {heights : Batch} {e kv}, e ∈ es → kv ∈ e.writes →
      kv ∈ es.flatMap ChainEvent.writes ++ heights :=
    fun he hkv => List.mem_append_left _ (List.mem_flatMap.mpr ⟨_, he, hkv⟩)
  induction h with
  | start => simp
  | round hwatches es confirmed hdelivers hemitted hclient hround ih =>
    obtain ⟨hconfigured, hrecorded⟩ := hwatches.recorded
    obtain ⟨-, -, hharmless, heights, hdb⟩ :=
      hrecorded.round hconfigured hdelivers hemitted hclient hround
    intro e he
    rw [hdb]
    rcases List.mem_append.mp he with he | he
    · obtain ⟨h₁, h₂, h₃⟩ := ih e he
      exact ⟨h₁, h₂, fun kv hkv => writeBatch_ne_none (h₃ kv hkv)⟩
    · exact ⟨hemitted e he, hharmless e he, fun kv hkv => writeBatch_ne_none_of_mem (hmem he hkv)⟩
  | restart hwatches es hemitted hharmless heights hheights fromHeight ih =>
    intro e he
    rcases List.mem_append.mp he with he | he
    · obtain ⟨h₁, h₂, h₃⟩ := ih e he
      exact ⟨h₁, h₂, fun kv hkv => writeBatch_ne_none (h₃ kv hkv)⟩
    · exact ⟨hemitted e he, hharmless e he, fun kv hkv => writeBatch_ne_none_of_mem (hmem he hkv)⟩

/-- Handling events does not touch the store. -/
theorem Handling.db (h : Handling w client handled v) :
    ∀ e ∈ handled, Emitted w e ∧ e.Harmless ∧ ∀ kv ∈ e.writes, v.db kv.1 ≠ none := by
  obtain ⟨v₀, es, confirmed, batch, hwatches, hdelivers, hemitted, hclient, hhandle⟩ := h
  obtain ⟨hconfigured, hrecorded⟩ := hwatches.recorded
  rcases handleEvents_cases confirmed.blockHeader hconfigured hrecorded.validAddresses [] hdelivers
    hclient with ⟨-, v', hok, hsame⟩ | ⟨-, hno⟩
  · obtain ⟨rfl, -⟩ := Prod.mk.inj (Go.ok.inj (hok.symm.trans hhandle))
    rw [hsame.db]
    exact hwatches.stored
  · exact absurd ⟨_, hhandle⟩ hno

/-- The sender of a remote token is accepted when it is the only wrapper of the token that the node can
have recorded. -/
theorem Recorded.accepts (h : Recorded w v) {t : TransferMessage} (hnative : t.isNativeToken = false)
    (hdb : v.db (tokenWrapperKey t.tokenId) ≠ none)
    (hone : ∀ id, w.WrapperFor id t.tokenId.val → id = t.senderId) :
    ∃ v', Alephium.validateTransferMessage v t = .ok (v', .ok ()) := by
  have hget : ∃ v' id, Alephium.getTokenWrapper v t.tokenId = .ok (v', .ok id) := by
    unfold Alephium.getTokenWrapper
    split
    · exact ⟨_, _, rfl⟩
    · split
      · rename_i hnone
        exact absurd hnone hdb
      · rename_i address haddress
        rw [toContractId_of_length (h.validAddresses.2 t.tokenId address haddress), Go.ok_bind]
        exact ⟨_, _, rfl⟩
  obtain ⟨v', id, hget⟩ := hget
  obtain rfl := hone id ((h.getTokenWrapper hget).2 id rfl)
  rw [Alephium.validateTransferMessage, expectedSender, if_neg (by simp [hnative]), hget, Go.ok_bind]
  exact ⟨v', by simp⟩

/-- **Every transfer is published.** In every run of transferable calls from a fresh world, a node that
watches the world and has handled the creation of every wrapper accepts each message that a wrapper of
the factory publishes. -/
theorem transferPublished (hfresh : w₀.Fresh)
    (hrun : Run (Wormhole.Alephium.step crypto distance) (Transferable crypto) w₀ w)
    (hhandling : Handling w client handled v)
    (hhandled : ∀ id, w.Wrapped id → ∃ s, .tokenWrapperCreated id s ∈ handled) {origin : Byte32}
    {m : Governance.WormholeMessage} (hm : .published origin m ∈ w.log)
    (hwrapped : w.Wrapped origin) :
    ∃ t v', transferMessageFromBytes (m.data.drop 4) = .ok t ∧
      validateTransferMessage v t = .ok (v', .ok ()) := by
  obtain ⟨-, -, hone, htransfers⟩ :
      Origins w ∧ Wrappers w ∧ OneForToken w ∧ RemoteTransfers w := by
    refine hrun.invariant (I := fun w => Origins w ∧ Wrappers w ∧ OneForToken w ∧ RemoteTransfers w)
      (fun w tx w' h hok hstep => ?_) ⟨.of_fresh hfresh, .of_fresh hfresh, ?_, ?_⟩
    · have heffect := step_effect hstep
      exact ⟨h.1.effect heffect, h.2.1.effect heffect, h.2.2.1.effect h.2.1 hok.factory heffect,
        h.2.2.2.effect h.1 hok heffect⟩
    · rintro tokenId id₁ _ ⟨hid, -⟩
      simp [World.Wrapped, hfresh.log] at hid
    · intro origin m s hm
      simp [hfresh.log] at hm
  obtain ⟨s, hs⟩ := hhandled origin hwrapped
  obtain ⟨⟨-, hat⟩, hharmless, hdb⟩ := hhandling.db _ hs
  have hlength : s.tokenContractId.length = 32 := hharmless
  obtain ⟨t, hread, htoken, hnative, hsender⟩ :=
    htransfers origin m s hm hwrapped hat ⟨_, hlength⟩ rfl
  refine (hhandling.recorded.accepts hnative ?_ fun id hid => ?_).elim fun v' hvalidate =>
    ⟨t, v', hread, hvalidate⟩
  · rw [htoken]
    refine hdb (tokenWrapperKey ⟨_, hlength⟩, contractAddress origin) ?_
    rw [ChainEvent.writes, dif_pos hlength]
    exact List.mem_singleton_self _
  · rw [hsender]
    rw [htoken] at hid
    exact hone s.tokenContractId id origin hid ⟨hwrapped, s, hat, rfl⟩

end Trust

/-! ## Inputs -/

/-- The wrapper of the token 0xc1 of chain 2, or for chain 2, that `caller` has asked for. -/
def sampleWrapper (caller : UInt8) (isLocalToken : Bool) : TokenWrapper.State where
  tokenBridgeId := (sampleId 0xa1).val
  tokenBridgeForChainId := (sampleId caller).val
  localChainId := 13
  remoteChainId := 2
  tokenContractId := (sampleId 0xc1).val
  isLocalToken
  tokenDecimals := 8
  symbol := List.replicate 32 0x54
  name := List.replicate 32 0x54

/-- The endpoint of chain 2. -/
def sampleEndpoint : TokenBridgeForChain.State where
  localChainId := 13
  localTokenBridgeId := (sampleId 0xa1).val
  remoteChainId := 2
  remoteTokenBridgeId := List.replicate 32 0x05
  replay := Sequence.State.init

/-- A full node that knows the wrapper and the endpoint. -/
def sampleClient (s : TokenWrapper.State) : Client := fun address =>
  if address = contractAddress (sampleId 0xd1) then .ok { address, fields := tokenWrapperFields s }
  else .ok { address, fields := tokenBridgeForChainFields sampleEndpoint }

/-- The wrapper 0xd1 sends two units. -/
def sampleTransfer : Call :=
  .transfer (sampleId 0xd1) (List.replicate 32 0x06) 2 1 [0x00, 0x00, 0x00, 0x00] 0

/-- What it publishes. -/
def sampleTransferMessage (tokenChainId : Nat) (isLocalToken : UInt8) : Governance.WormholeMessage :=
  Governance.publishMessage (sampleId 0xa1) 0 [0x00, 0x00, 0x00, 0x00]
    (TransferMessage.bytes ⟨beBytes 32 2, beBytes_length ..⟩ (sampleId 0xc1)
      ⟨beBytes 2 tokenChainId, beBytes_length ..⟩ (sampleId 0x06) ⟨beBytes 2 2, beBytes_length ..⟩
      ⟨beBytes 32 1, beBytes_length ..⟩ isLocalToken (sampleId 0xd1)) 0

theorem sampleTransferMessage_read (tokenChainId : Nat) (isLocalToken : UInt8) : ∃ t,
    transferMessageFromBytes ((sampleTransferMessage tokenChainId isLocalToken).data.drop 4) = .ok t ∧
      t.tokenId = sampleId 0xc1 ∧ t.isNativeToken = decide (isLocalToken = 1) ∧
      t.senderId = sampleId 0xd1 := by
  rw [sampleTransferMessage, publishMessage_data_drop rfl, ← List.append_nil (TransferMessage.bytes ..),
    transferMessageFromBytes_bytes]
  exact ⟨_, rfl, rfl, rfl, rfl⟩

/-- A node that has handled these events in one batch. -/
theorem exists_handling {w : World} {client : Client} {es : List ChainEvent}
    (hemitted : ∀ e ∈ es, Emitted w e) (hclient : ∀ e ∈ es, e.Answered client)
    (hharmless : ∀ e ∈ es, e.Harmless) : ∃ v, Handling w client es v := by
  rcases round_cases freshValidator_configured freshValidator_validAddresses
    (sampleConfirmed_delivers 0 es) hclient with ⟨-, v, hround, -⟩ | ⟨hno, -⟩
  · have hstart : Watches w client [] freshValidator := .start _ freshValidator_configured
      (fun _ => rfl) (fun _ => rfl) (fun _ => rfl) fun _ => rfl
    exact ⟨v, v, [], sampleConfirmed 0 [], [], hstart.round es _ (sampleConfirmed_delivers 0 es) hemitted
      hclient hround, .nil, by simp, by simp, rfl⟩
  · exact absurd hharmless hno

/-- A token of chain 2 is attested and sent back. -/
def remoteTransfer : List Call := oneAttestation ++ [sampleTransfer]

/-- What the run leaves on chain. -/
theorem remoteTransfer_runs :
    ((worldAfter remoteTransfer).log =
      [.tokenBridgeForChainCreated (sampleId 0xb1), .tokenWrapperCreated (sampleId 0xd1),
        .published (sampleId 0xd1) (sampleTransferMessage 2 0)] ∧
      (worldAfter remoteTransfer).wrapperAt (sampleId 0xd1) = some (sampleWrapper 0xb1 false)) ∧
    (worldAfter oneAttestation).wrapperAt (sampleId 0xd1) = some (sampleWrapper 0xb1 false) ∧
    (worldAfter [.registerChain (registerVaa 0 2) (sampleId 0xb1)]).log =
      [.tokenBridgeForChainCreated (sampleId 0xb1)] ∧
    wrapRequest Governance.Crypto.sample
      (worldAfter [.registerChain (registerVaa 0 2) (sampleId 0xb1)])
      ⟨5, .createWrapperForRemoteToken (sampleId 0xb1) (attestVaa 0 2 (sampleId 0xc1)) none
        (sampleId 0xd1)⟩ = some (sampleId 0xb1, (sampleId 0xc1).val) := by decide +kernel

/-- The attested wrapper is genuine. -/
theorem remoteTransfer_genuine : (worldAfter remoteTransfer).Wrapped (sampleId 0xd1) ∧
    (worldAfter remoteTransfer).Paired (sampleId 0xd1) := by
  obtain ⟨⟨hlog, -⟩, hat, hregistered, hrequest⟩ := remoteTransfer_runs
  have hregister : Authentic Governance.Crypto.sample freshWorld
      ⟨5, .registerChain (registerVaa 0 2) (sampleId 0xb1)⟩ :=
    ⟨fun _ _ h => (Option.some_ne_none _ h.symm).elim, by simp, by simp⟩
  have hattest : Authentic Governance.Crypto.sample
      (worldAfter [.registerChain (registerVaa 0 2) (sampleId 0xb1)])
      ⟨5, .createWrapperForRemoteToken (sampleId 0xb1) (attestVaa 0 2 (sampleId 0xc1)) none
        (sampleId 0xd1)⟩ := by
    refine ⟨fun caller tokenId h => ?_, by simp, by simp⟩
    obtain ⟨rfl, -⟩ := Prod.mk.inj (Option.some.inj (hrequest.symm.trans h))
    rw [World.Registered, hregistered]
    exact List.mem_singleton_self _
  have htransfer : Authentic Governance.Crypto.sample (worldAfter oneAttestation)
      ⟨5, sampleTransfer⟩ := by
    refine ⟨fun _ _ h => (Option.some_ne_none _ h.symm).elim, by simp [sampleTransfer],
      fun wrapper _ _ _ _ _ s h hs => ?_⟩
    cases h
    obtain rfl := Option.some.inj (hat.symm.trans hs)
    rfl
  have hwrapped : (worldAfter remoteTransfer).Wrapped (sampleId 0xd1) := by
    rw [World.Wrapped, hlog]
    simp
  have hrun : Run (Wormhole.Alephium.step Governance.Crypto.sample 64)
      (Authentic Governance.Crypto.sample) freshWorld (worldAfter remoteTransfer) :=
    run_worldAfter _ (run_worldAfter _ (run_worldAfter [] (Run.refl freshWorld) _ hregister) _
      hattest) _ htransfer
  exact ⟨hwrapped, (genuineWrappers freshWorld_fresh hrun).1 _ hwrapped⟩

/-- Its transfer is accepted. -/
theorem remoteTransfer_accepted : ∃ v t v',
    Handling (worldAfter remoteTransfer) (sampleClient (sampleWrapper 0xb1 false))
      [.tokenWrapperCreated (sampleId 0xd1) (sampleWrapper 0xb1 false)] v ∧
    transferMessageFromBytes ((sampleTransferMessage 2 0).data.drop 4) = .ok t ∧
    validateTransferMessage v t = .ok (v', .ok ()) := by
  obtain ⟨⟨hlog, hwrapper⟩, hat, hregistered, -⟩ := remoteTransfer_runs
  have hregister : Transferable Governance.Crypto.sample freshWorld
      ⟨5, .registerChain (registerVaa 0 2) (sampleId 0xb1)⟩ :=
    ⟨fun _ _ h => (Option.some_ne_none _ h.symm).elim, nofun⟩
  have hattest : Transferable Governance.Crypto.sample
      (worldAfter [.registerChain (registerVaa 0 2) (sampleId 0xb1)])
      ⟨5, .createWrapperForRemoteToken (sampleId 0xb1) (attestVaa 0 2 (sampleId 0xc1)) none
        (sampleId 0xd1)⟩ := by
    refine ⟨fun _ tokenId _ id hid => ?_, nofun⟩
    simp [World.WrapperFor, World.Wrapped, hregistered] at hid
  have htransfer : Transferable Governance.Crypto.sample (worldAfter oneAttestation)
      ⟨5, sampleTransfer⟩ := by
    refine ⟨fun _ _ h => (Option.some_ne_none _ h.symm).elim, fun wrapper _ _ _ _ _ s h _ hs => ?_⟩
    cases h
    obtain rfl := Option.some.inj (hat.symm.trans hs)
    rfl
  have hrun : Run (Wormhole.Alephium.step Governance.Crypto.sample 64)
      (Transferable Governance.Crypto.sample) freshWorld (worldAfter remoteTransfer) :=
    run_worldAfter _ (run_worldAfter _ (run_worldAfter [] (Run.refl freshWorld) _ hregister) _
      hattest) _ htransfer
  have honly : ∀ id, (worldAfter remoteTransfer).Wrapped id → id = sampleId 0xd1 := by
    intro id hid
    simpa [World.Wrapped, hlog] using hid
  have hwrapped : (worldAfter remoteTransfer).Wrapped (sampleId 0xd1) := by
    rw [World.Wrapped, hlog]
    simp
  obtain ⟨v, hhandling⟩ := @exists_handling (worldAfter remoteTransfer)
    (sampleClient (sampleWrapper 0xb1 false))
    [.tokenWrapperCreated (sampleId 0xd1) (sampleWrapper 0xb1 false)]
    (by simpa [Emitted] using ⟨hwrapped, hwrapper⟩)
    (by simpa [ChainEvent.Answered] using by decide +kernel)
    (by simpa [ChainEvent.Harmless] using by decide)
  have hpublished : Entry.published (sampleId 0xd1) (sampleTransferMessage 2 0) ∈
      (worldAfter remoteTransfer).log := by simp [hlog]
  obtain ⟨t, v', hread, hvalidate⟩ := transferPublished freshWorld_fresh hrun hhandling
    (fun id hid => ⟨sampleWrapper 0xb1 false, by simp [honly id hid]⟩) hpublished hwrapped
  exact ⟨v, t, v', hhandling, hread, hvalidate⟩

/-- A contract that is no endpoint asks the factory for a wrapper, and sends its tokens. -/
def forgedTransfer : List Call :=
  [.registerChain (registerVaa 0 2) (sampleId 0xb1),
    .createWrapper (sampleId 0xee) (sampleId 0xa1).val 13 2 (sampleId 0xc1).val false
      ⟨8, List.replicate 32 0x54, List.replicate 32 0x54⟩ (sampleId 0xd1), sampleTransfer]

/-- **A forged wrapper is trusted.** It belongs to no endpoint, and its transfer is accepted. -/
theorem forgedTransfer_accepted :
    Run (Wormhole.Alephium.step Governance.Crypto.sample 64) (fun _ _ => True) freshWorld
      (worldAfter forgedTransfer) ∧
    (worldAfter forgedTransfer).Wrapped (sampleId 0xd1) ∧
    ¬(worldAfter forgedTransfer).Paired (sampleId 0xd1) ∧
    ∃ v t v', Handling (worldAfter forgedTransfer) (sampleClient (sampleWrapper 0xee false))
        [.tokenWrapperCreated (sampleId 0xd1) (sampleWrapper 0xee false)] v ∧
      .published (sampleId 0xd1) (sampleTransferMessage 2 0) ∈ (worldAfter forgedTransfer).log ∧
      transferMessageFromBytes ((sampleTransferMessage 2 0).data.drop 4) = .ok t ∧
      validateTransferMessage v t = .ok (v', .ok ()) := by
  obtain ⟨hlog, hat⟩ : (worldAfter forgedTransfer).log = [.tokenBridgeForChainCreated (sampleId 0xb1),
        .tokenWrapperCreated (sampleId 0xd1), .published (sampleId 0xd1) (sampleTransferMessage 2 0)] ∧
      (worldAfter forgedTransfer).wrapperAt (sampleId 0xd1) = some (sampleWrapper 0xee false) := by
    decide +kernel
  have hwrapped : (worldAfter forgedTransfer).Wrapped (sampleId 0xd1) := by
    rw [World.Wrapped, hlog]
    simp
  refine ⟨run_attempts (P := fun _ => True) _ _ fun _ _ => trivial, hwrapped, ?_, ?_⟩
  · rintro ⟨s, bridge, b, hs, hbaked, hregistered, -⟩
    obtain rfl := Option.some.inj (hat.symm.trans hs)
    obtain rfl : sampleId 0xee = bridge := Subtype.ext hbaked
    rw [World.Registered, hlog] at hregistered
    exact absurd hregistered (by decide +kernel)
  · obtain ⟨v, hhandling⟩ := @exists_handling (worldAfter forgedTransfer)
      (sampleClient (sampleWrapper 0xee false))
      [.tokenWrapperCreated (sampleId 0xd1) (sampleWrapper 0xee false)]
      (by simpa [Emitted] using ⟨hwrapped, hat⟩)
      (by simpa [ChainEvent.Answered] using by decide +kernel)
      (by simpa [ChainEvent.Harmless] using by decide)
    obtain ⟨t, hread, htoken, hnative, hsender⟩ := sampleTransferMessage_read 2 0
    obtain ⟨-, -, hdb⟩ := hhandling.db _ (List.mem_singleton_self _)
    obtain ⟨v', hvalidate⟩ := hhandling.recorded.accepts (t := t) (by rw [hnative]; rfl)
      (htoken ▸ hdb (_, _) (List.mem_singleton_self _)) fun id hid => by
        rw [hsender]
        simpa [World.Wrapped, hlog] using hid.1
    exact ⟨v, t, v', hhandling, by rw [hlog]; simp, hread, hvalidate⟩

/-- A token of this chain is wrapped for chain 2, and sent there. -/
def localTransfer : List Call :=
  [.registerChain (registerVaa 0 2) (sampleId 0xb1),
    .createWrapperForLocalToken (sampleId 0xb1) (sampleId 0xc1).val
      ⟨8, List.replicate 32 0x54, List.replicate 32 0x54⟩ (sampleId 0xd1), sampleTransfer]

/-- **Local tokens never leave.** A node that has recorded the endpoint and the wrapper drops the
transfer: it expects the endpoint's id where the wrapper's stands. -/
theorem localTransfer_dropped :
    Run (Wormhole.Alephium.step Governance.Crypto.sample 64) (fun _ _ => True) freshWorld
      (worldAfter localTransfer) ∧
    (worldAfter localTransfer).Wrapped (sampleId 0xd1) ∧
    (worldAfter localTransfer).Paired (sampleId 0xd1) ∧
    .published (sampleId 0xd1) (sampleTransferMessage 13 1) ∈ (worldAfter localTransfer).log ∧
    (∃ v, Handling (worldAfter localTransfer) (sampleClient (sampleWrapper 0xb1 true))
      [.tokenBridgeForChainCreated (sampleId 0xb1) sampleEndpoint,
        .tokenWrapperCreated (sampleId 0xd1) (sampleWrapper 0xb1 true)] v) ∧
    ∃ t, transferMessageFromBytes ((sampleTransferMessage 13 1).data.drop 4) = .ok t ∧
      ∀ client handled v, Handling (worldAfter localTransfer) client handled v →
        ∀ v', validateTransferMessage v t ≠ .ok (v', .ok ()) := by
  obtain ⟨hlog, hat, hbridge⟩ :
      (worldAfter localTransfer).log = [.tokenBridgeForChainCreated (sampleId 0xb1),
        .tokenWrapperCreated (sampleId 0xd1), .published (sampleId 0xd1) (sampleTransferMessage 13 1)] ∧
      (worldAfter localTransfer).wrapperAt (sampleId 0xd1) = some (sampleWrapper 0xb1 true) ∧
      (worldAfter localTransfer).bridgeAt (sampleId 0xb1) = some sampleEndpoint := by
    decide +kernel
  have hwrapped : (worldAfter localTransfer).Wrapped (sampleId 0xd1) := by
    rw [World.Wrapped, hlog]
    simp
  have hregistered : (worldAfter localTransfer).Registered (sampleId 0xb1) := by
    rw [World.Registered, hlog]
    simp
  obtain ⟨t, hread, -, hnative, hsender⟩ := sampleTransferMessage_read 13 1
  refine ⟨run_attempts (P := fun _ => True) _ _ fun _ _ => trivial, hwrapped,
    ⟨_, _, _, hat, rfl, hregistered, hbridge, rfl⟩, by rw [hlog]; simp, ?_, t, hread, ?_⟩
  · refine exists_handling ?_ ?_ ?_
    · simpa [Emitted] using ⟨⟨hregistered, _, hbridge, rfl⟩, hwrapped, hat⟩
    · simpa [ChainEvent.Answered] using by decide +kernel
    · simpa [ChainEvent.Harmless] using by decide +kernel
  · intro client handled v hhandling v' hvalidate
    have haccepted := (hhandling.recorded.validateTransferMessage hvalidate).2 rfl
    rw [hnative, if_pos (by decide), hsender, World.Registered, hlog] at haccepted
    exact absurd haccepted (by decide +kernel)

end Wormhole.Guardian.Alephium
